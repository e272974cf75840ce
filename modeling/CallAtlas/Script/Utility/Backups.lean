import CallAtlas.Script.Utility.Names

/-!
Backups of files that would be replaced: other names that they get before.
-/

namespace CallAtlas.Script.Utility

inductive BackupKind where
  | none
  | simple
  | numbered
  | existing
  deriving DecidableEq

structure BackupForm where
  kind : BackupKind := .none
  ending : ByteText := ['~']

namespace BackupForm

def kinds : List (String × BackupKind) :=
  [("none", .none), ("off", .none), ("simple", .simple), ("never", .simple), ("existing", .existing),
    ("nil", .existing), ("numbered", .numbered), ("t", .numbered)]

def kind? (word : ByteText) : Option BackupKind :=
  if word.isEmpty then some .existing else chosenWord? kinds word

def letter : Char := Char.ofNat 0x1100

def isAsked (given : Given) : Bool := given.has 'b' || given.has 'S' || given.has letter

def ofGiven (given : Given) : Except ByteText BackupForm :=
  -- What would lead to another directory is put behind no name.
  let isEnding := fun (text : ByteText) => !text.isEmpty && !text.contains '/'
  let ending := ((given.value? 'S').filter isEnding).getD ['~']
  let word := (given.value? letter).getD []
  if !isAsked given then .ok {}
  else
    match kind? word with
    | some kind => .ok { kind, ending }
    | none => .error word

def numberOf? (name candidate : ByteText) : Option Nat :=
  let start := name ++ ".~".toList
  if start.isPrefixOf candidate then
    let digits := (candidate.drop start.length).takeWhile Char.isDigit
    if !digits.isEmpty && candidate = start ++ digits ++ ['~'] then (String.ofList digits).toNat?
    else none
  else none

def backupName (form : BackupForm) (path : ByteText) : Task ByteText := do
  let directory := if path.contains '/' then directoryName path else ['.']
  let entries := ((← Task.files).list (ByteText.toPath directory)).toOption.getD []
  let numbers := entries.filterMap fun entry =>
    numberOf? (baseName path) (ByteText.ofString entry.1)
  let next := numbers.foldl max 0 + 1
  let byNumber := path ++ ".~".toList ++ Nat.toDigits 10 next ++ ['~']
  return match form.kind with
    | .numbered => byNumber
    | .existing => if numbers.isEmpty then path ++ form.ending else byNumber
    | _ => path ++ form.ending

end BackupForm

def withBackups (name : String) (given : Given) (body : BackupForm → Task Nat) : Task Nat := do
  match BackupForm.ofGiven given with
  | .ok form => body form
  | .error word =>
      misuse 1 name ((wordFault? "backup type" BackupForm.kinds word).elim "" (·.complaint))

end CallAtlas.Script.Utility
