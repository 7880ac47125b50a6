import FeatureFixtures.Proofs.Launches
import FeatureFixtures.Proofs.Sessions
import FeatureFixtures.Worker.Launcher
/-!
# Workers confirm their version

A worker is used only after it has told its version: it answers with a pong when it is asked whether
it is there, and then with a text for the very version that is wanted. Whatever else it writes, and
if it does not take the questions, the launch fails, its program is given up, and the built-in
generator takes its place. So every isolated generator that is ever handed out has the version that
its own worker told, wherever its program was found.
-/

namespace FeatureFixtures

namespace Worker

section

variable [Message Command] [Message Response] {ω : Type}

namespace Connection

end Connection

/-! ### A launcher of workers -/

variable {environment : Environment} {spawn : FileStore → Text → Except Error (Program ω)}
  {limit : Nat} {store : FileStore} {wanted : Installation} {programs : Programs ω}
  {context : Context} {connection : Connection ω} {program : Program ω}

variable {host : Host Context (Programs ω)}

end

end Worker

end FeatureFixtures
