import Mathlib.Data.List.DropRight

/-!
# The key of an application

The string functions `FindOrMapApplication` (`Daemon/Data/SystemMap.cpp`) turns what `/proc` says
about a process into the key of its application with.
-/

namespace Waechter

/-- Apply a function on character lists to a string. -/
def mapChars (f : List Char → List Char) (s : String) : String := String.ofList (f s.toList)

/-- `WStringFormat::Trim`: only blanks. -/
def trim : String → String := mapChars fun cs => (cs.dropWhile (· = ' ')).rdropWhile (· = ' ')

/-- The part before the first blank. -/
def cutAtBlank : String → String := mapChars (List.takeWhile (· ≠ ' '))

/-- The string starts with a slash: `!Value.empty() && Value.front() == '/'`. -/
def isPath (s : String) : Bool := s.toList.head? = some '/'

/-- `GetBasename`. -/
def getBasename (path : String) : String := trim (mapChars (List.rtakeWhile (· ≠ '/')) path)

/-- `SanitizeProcessBinaryCandidate`. -/
def sanitizeProcessBinaryCandidate (value : String) : String :=
  let value := trim (cutAtBlank (trim value))
  let value := trim (mapChars (List.rdropWhile (· = ':')) value)
  if value = "" ∨ value = "main" ∨ value = "Main" then ""
  else if value.toList.head? = some '[' ∧ value.toList.getLast? = some ']' then ""
  else value

/-- The characters `.` does not match in a regular expression. -/
def isLineTerminator (c : Char) : Bool := c = '\n' || c = '\r'

/-- `NormalizeAppImagePaths`: `^/tmp/[^/]+/usr/bin/(.*)$` becomes `/tmp/appimage/bin/$1`. -/
def normalizeAppImagePaths (path : String) : String :=
  match path.toList.dropPrefix? "/tmp/".toList with
  | none => path
  | some tail =>
    let mount := tail.takeWhile (· ≠ '/')
    match (tail.dropWhile (· ≠ '/')).dropPrefix? "/usr/bin/".toList with
    | none => path
    | some name =>
      if mount = [] ∨ name.any isLineTerminator then path
      else String.ofList ("/tmp/appimage/bin/".toList ++ name)

/-- The key `FindOrMapApplication` looks up. -/
def applicationKey (exePath commandLine appName : String) : String :=
  let key := if exePath = "" then commandLine else exePath
  let key := if key = "" then appName else key
  let key := trim (cutAtBlank key)
  let key := if isPath key then key else sanitizeProcessBinaryCandidate key
  let key := normalizeAppImagePaths key
  if key = "" then (if appName = "" then "unknown" else trim appName) else key

/-- The display name of a new application. -/
def applicationDisplayName (key appName : String) : String :=
  if appName ≠ "" then appName
  else
    let name := getBasename key
    if name = "" then (if key = "" then "unknown" else key) else name

/-- An application that is known under a process title is matched by its alias or its name. -/
def matchesTitle (key appName existingKey existingPath existingName : String) : Bool :=
  let appAlias := sanitizeProcessBinaryCandidate appName
  let title := sanitizeProcessBinaryCandidate existingPath
  let title := if title = "" then sanitizeProcessBinaryCandidate existingKey else title
  (title ≠ "" && (title = getBasename key || title = appAlias)) ||
    (appName ≠ "" && existingName = appName)

/-- An application that is known under a path is matched by its file name. -/
def matchesPath (key appName existingPath : String) : Bool :=
  let name := getBasename existingPath
  name ≠ "" && (name = getBasename key || name = sanitizeProcessBinaryCandidate appName)

example : applicationKey "" "nginx: worker process" "nginx" = "nginx" := by decide

example : applicationKey "/tmp/.mount_x/usr/bin/app" "" "app" = "/tmp/appimage/bin/app" := by decide

end Waechter
