/-!
# Paths

A path is kept as it was written, because messages repeat it. Its parts are the
texts between its slashes; empty parts and single dots stand for the directory
they occur in. The last part that stands for something else is the file name,
which is divided at its last dot into a stem and an extension, unless that dot is
its first character.
-/

namespace StackLowering

/-- A path as it was written. -/
structure Path where
  text : String
deriving DecidableEq, Repr

namespace Path

/-- The texts between the slashes of a text. -/
def splitAtSlashes : List Char → List (List Char)
  | [] => [[]]
  | character :: rest =>
    if character = '/' then [] :: splitAtSlashes rest
    else match splitAtSlashes rest with
      | [] => [[character]]
      | part :: parts => (character :: part) :: parts

/-- The parts of a path, in order. -/
def parts (path : Path) : List String := (splitAtSlashes path.text.toList).map String.ofList

/-- Whether a path starts at the root. -/
def isAbsolute (path : Path) : Bool := path.text.toList.head? == some '/'

/-- Whether a path ends in a slash. -/
def endsInSlash (path : Path) : Bool := path.text.toList.getLast? == some '/'

/-- A reversed path without the slashes and the parts that are single dots at its end. -/
def dropSelf : List Char → List Char
  | '/' :: rest => dropSelf rest
  | '.' :: '/' :: rest => dropSelf rest
  | reversed => reversed

/-- A reversed path that ends in the last part that counts. -/
def ending (path : Path) : List Char := dropSelf path.text.toList.reverse

/-- The name of the file that a path leads to, if its last part that counts is a name. -/
def fileName? (path : Path) : Option (List Char) :=
  let name := (path.ending.takeWhile (· ≠ '/')).reverse
  if name = [] ∨ name = ['.'] ∨ name = ['.', '.'] then none else some name

/-- The characters of a path before its file name. -/
def beforeName (path : Path) : List Char := (path.ending.dropWhile (· ≠ '/')).reverse

/-- The stem and the extension of a file name. -/
def divideName (name : List Char) : List Char × Option (List Char) :=
  match name.reverse.dropWhile (· ≠ '.') with
  | _ :: last :: before =>
    ((last :: before).reverse, some (name.reverse.takeWhile (· ≠ '.')).reverse)
  | _ => (name, none)

/-- The stem of the file name of a path, empty if there is no file name. -/
def stem (path : Path) : String :=
  match path.fileName? with
  | some name => String.ofList (divideName name).1
  | none => ""

/-- The extension of the file name of a path. -/
def extension? (path : Path) : Option String := do
  let name ← path.fileName?
  let extension ← (divideName name).2
  return String.ofList extension

/-- A path without the extension of its file name. The dot in front of it stays. -/
def dropExtension (path : Path) : Path :=
  match path.extension? with
  | some extension => ⟨String.ofList (path.text.toList.take (path.text.length - extension.length))⟩
  | none => path

/-- A path that leads to the stem of its file name with an extension behind it. A path without file
name stays as it is. -/
def setExtension (path : Path) (extension : String) : Path :=
  match path.fileName? with
  | some name =>
    ⟨String.ofList (path.beforeName ++ (divideName name).1) ++ "." ++ extension⟩
  | none => path

/-- The path of the file beside that of a path, with the same stem and another extension. If
dropping the old extension leaves two dots, which are no file name, the path ends in them. -/
def withExtension (path : Path) (extension : String) : Path :=
  path.dropExtension.setExtension extension

/-- A path with an extension written right behind its last character. -/
def appendExtension (path : Path) (extension : String) : Path :=
  ⟨path.text ++ "." ++ extension⟩

/-- The path of an entry of a directory. -/
def child (directory : Path) (name : String) : Path :=
  if directory.endsInSlash then ⟨directory.text ++ name⟩ else ⟨directory.text ++ "/" ++ name⟩

end Path

end StackLowering
