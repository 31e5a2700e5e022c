/-!
Which log lines are kept when the environment does not say.
-/

namespace Enclose

def logFilter (level : String) : String :=
  "transform_service=" ++ level ++ ",tower_http=" ++ level

end Enclose
