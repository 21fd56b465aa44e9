import SharedBindings.Binding.Description
import SharedBindings.Workspace
import SharedBindings.Proofs.Session.HostWrites
import SharedBindings.Proofs.Workspace.Interleaving
import SharedBindings.Proofs.Names.Spelling
import SharedBindings.Proofs.Registry.Bookkeeping
import SharedBindings.Proofs.Registry.Roster
import SharedBindings.Proofs.Registry.Soundness
import SharedBindings.Proofs.Session.WellFormed
import SharedBindings.Proofs.Resync.Mirroring
import SharedBindings.Proofs.Resync.Shadowing
import SharedBindings.Proofs.Session.Laziness
import SharedBindings.Proofs.Resync.Arguments
import SharedBindings.Proofs.Session.ArgumentList
import SharedBindings.Proofs.Session.Locals
import SharedBindings.Proofs.Session.Persistence
import SharedBindings.Proofs.Session.Transience
import SharedBindings.Proofs.Resync.Origins
import SharedBindings.Proofs.Session.Predefined
import SharedBindings.Proofs.Session.Namespaces
import SharedBindings.Proofs.Session.Undoing
import SharedBindings.Proofs.Session.Acts
import SharedBindings.Proofs.Registry.Released
import SharedBindings.Proofs.Session.Detachment
import SharedBindings.Proofs.Resync.Constants
import SharedBindings.Proofs.Session.Confinement
import SharedBindings.Proofs.Session.RoundTrip
import SharedBindings.Proofs.Session.Retraction
import SharedBindings.Proofs.Injection.Idempotence
import SharedBindings.Proofs.Resync.Idempotence
import SharedBindings.Proofs.Session.Pulling
import SharedBindings.Proofs.Session.Isolation
import SharedBindings.Proofs.Names.Languages
import SharedBindings.Proofs.Text.Padding
import SharedBindings.Proofs.Host.Parsing
import SharedBindings.Proofs.Guest.Inheritance
import SharedBindings.Proofs.Session.Commuting
