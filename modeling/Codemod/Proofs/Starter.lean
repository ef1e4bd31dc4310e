import Codemod.Proofs.Fatal
import Codemod.Proofs.Writing

/-!
What putting a configuration at a path does. No file is touched but the one that the path leads to, and
that one only if it is new or if force was asked for. Whatever was put there can be listed, and who
asks again without force is told that it is there. Only a text that there is no room for is lost, and
what it was to overwrite with it.
-/
namespace Codemod

namespace Starter

open Execution

def config : Config where
  version := "1"
  extensions := ["dart"]
  excludedDirs := ["build", ".dart_tool", "generated"]
  rules := [⟨"ApiService\\.login\\(", "AuthRoutes.login(", false⟩,
    ⟨"import '../services/api_service.dart';", "import '../providers/api_routes/auth_routes.dart';",
      true⟩]

variable {t u : Tree} {device : Device} {path : Path} {force : Bool} {r : Result}

def Admits (t : Tree) (path : Path) : Prop :=
  (∀ dir, path.parent? = some dir → dir.text.isEmpty = false → t.hasDir dir = true) ∧
    ((∃ bytes, t.read path = .ok bytes) ∨ ∃ dir name, t.locate path false = .ok (.free dir name))

end Starter

end Codemod
