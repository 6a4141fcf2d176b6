import TextTemplate.Host.Script
import TextTemplate.Proofs.Accounting
import TextTemplate.Proofs.ArgumentPassing
import TextTemplate.Proofs.Arity
import TextTemplate.Proofs.Assignment
import TextTemplate.Proofs.Backtrace
import TextTemplate.Proofs.Blame
import TextTemplate.Proofs.Callable
import TextTemplate.Proofs.Canonical
import TextTemplate.Proofs.Capture
import TextTemplate.Proofs.Comparison
import TextTemplate.Proofs.Conversion
import TextTemplate.Proofs.DefaultVerb
import TextTemplate.Proofs.Depth
import TextTemplate.Proofs.Division
import TextTemplate.Proofs.EmptyBody
import TextTemplate.Proofs.Escaping
import TextTemplate.Proofs.Exit
import TextTemplate.Proofs.Handle
import TextTemplate.Proofs.History
import TextTemplate.Proofs.IntegerLiteral
import TextTemplate.Proofs.Isolation
import TextTemplate.Proofs.Joining
import TextTemplate.Proofs.LocalData
import TextTemplate.Proofs.Location
import TextTemplate.Proofs.LoopState
import TextTemplate.Proofs.Membership
import TextTemplate.Proofs.Once
import TextTemplate.Proofs.OptionalField
import TextTemplate.Proofs.Padding
import TextTemplate.Proofs.Policy
import TextTemplate.Proofs.Rounds
import TextTemplate.Proofs.Slicing
import TextTemplate.Proofs.StrictPath
import TextTemplate.Proofs.Tally
import TextTemplate.Proofs.Termination
import TextTemplate.Proofs.Visibility
import TextTemplate.Value.Listing
