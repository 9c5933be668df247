import SlotBooking.Url

/-!
# Settings

Two settings are texts that have to be brought into their final form: the address of the store and
the address of a collaborator.

* `resolveStoreUrl`: a relative file of the store is anchored at the root of the installation.
* `baseUrl`: a collaborator's address has no slashes at its end, and has to be one.
-/

namespace SlotBooking.Settings

/-- The opening of the address of a relative file. -/
def relativeMark : List Char := "sqlite:///./".toList

/-- The opening of the address of any file. -/
def fileMark : List Char := "sqlite:///".toList

/-- The text without any occurrence of `mark`, searched from the left; `fuel` bounds the length of
the text. -/
def eraseAll (mark : List Char) : (fuel : Nat) → List Char → List Char
  | 0, cs => cs
  | _, [] => []
  | fuel + 1, c :: cs =>
    if mark.isPrefixOf (c :: cs) then eraseAll mark fuel ((c :: cs).drop mark.length)
    else c :: eraseAll mark fuel cs

/-- A path below a root: empty segments and `.` go, `..` stays, and a path that opens with a slash
replaces the root; two slashes at its beginning remain. -/
def joinPath (root : List Char) (path : List Char) : List Char :=
  let segments := (path.splitOn '/').filter fun s => s ≠ [] ∧ s ≠ ['.']
  let body := ['/'].intercalate segments
  match path with
  | '/' :: '/' :: '/' :: _ => '/' :: body
  | '/' :: '/' :: _ => '/' :: '/' :: body
  | '/' :: _ => '/' :: body
  | _ => if segments.isEmpty then root else root ++ '/' :: body

/-- The address of the store, with a relative file anchored at `root`. -/
def resolveStoreUrl (root url : String) : String :=
  let cs := url.toList
  if relativeMark.isPrefixOf cs then
    String.ofList (fileMark ++ joinPath root.toList (eraseAll relativeMark (cs.length + 1) cs))
  else url

/-- A collaborator's address without slashes at its end. -/
def baseUrl (url : String) : Except Url.Error String := do
  let url := String.ofList (url.toList.reverse.dropWhile (· = '/')).reverse
  Url.check url
  return url

end SlotBooking.Settings
