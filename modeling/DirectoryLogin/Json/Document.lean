import DirectoryLogin.Json.Printer
import DirectoryLogin.Json.Reader
import DirectoryLogin.Json.Record

/-!
# Records in JSON texts

Reads a whole JSON text as a record. The first fault in the order of the text is the one reported.
-/

namespace DirectoryLogin.Json

/-- Reads a text that holds one value and white space around it. -/
def Reads.ofText {α : Type} (item : Reads α) (s : String) : Except Fault α :=
  let (v, more) := Json.read s
  item.text v more

end DirectoryLogin.Json
