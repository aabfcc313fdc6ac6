/-!
# The program

Its name and its version, as it tells them.
-/

namespace DirectoryLogin

def programName : String := "ldapgate"

def programVersion : String := "0.1.0"

end DirectoryLogin
