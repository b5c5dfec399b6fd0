import ShaderUplift.Upgrade
import ShaderUplift.Proofs.Declaration.Placed
import ShaderUplift.Proofs.Declaration.Reread
import ShaderUplift.Proofs.Directive.Named
import ShaderUplift.Proofs.Extension.Inserted
import ShaderUplift.Proofs.Extension.Required
import ShaderUplift.Proofs.Extension.Swept
import ShaderUplift.Proofs.Name.Attribute
import ShaderUplift.Proofs.Name.Layout
import ShaderUplift.Proofs.Name.Shared
import ShaderUplift.Proofs.Output.Preceding
import ShaderUplift.Proofs.Output.Queued
import ShaderUplift.Proofs.Token.Divided
import ShaderUplift.Proofs.Token.Maximal
import ShaderUplift.Proofs.Upgrade.Carried
import ShaderUplift.Proofs.Upgrade.Conditional
import ShaderUplift.Proofs.Upgrade.FixedPoint
import ShaderUplift.Proofs.Upgrade.Modern
import ShaderUplift.Proofs.Version.Stable
