import TopicConsumer.Config.Value
import TopicConsumer.Text.Blank
import TopicConsumer.Text.Reader

/-!
# Reading INI files

An INI file has entries, which are texts under keys, and sections, whose names stand in brackets. A
key goes up to the first equals sign or colon and a value up to the end of its line; a value may
begin with quoted parts, which may run over several lines. Comments begin at the very beginning of a
line. Of sections with the same name the last one counts.
-/

namespace TopicConsumer.Ini

open Text Reader

/-- The character that four hexadecimal digits stand for. -/
def codePoint : Reader Char := fun cs =>
  match cs with
  | a :: b :: c :: d :: rest => ((inBase? 16 [a, b, c, d]).bind scalar?).map (·, rest)
  | _ => none

/-- What a backslash and the character behind it stand for. -/
def escape : Reader (List Char) := do
  match ← next with
  | '0' => pure ['\x00']
  | 'a' => pure ['\x07']
  | 'b' => pure ['\x08']
  | 't' => pure ['\t']
  | 'r' => pure ['\r']
  | 'n' => pure ['\n']
  | '\n' => pure []
  | 'x' => do pure [← codePoint]
  | c => pure [c]

/-- The characters up to one of those in `ends`, which stays where it is, behind those already read.
The end of the file counts as one of them if `open_` says so. -/
def upTo (ends : List Char) (open_ : Bool) : Nat → List Char → Reader (List Char)
  | 0, _ => failure
  | fuel + 1, read => do
    match ← peek? with
    | none => if open_ then pure read.reverse else failure
    | some c =>
      if ends.contains c then pure read.reverse
      else
        let _ ← next
        if c = '\\' then upTo ends open_ fuel ((← escape).reverse ++ read)
        else upTo ends open_ fuel (c :: read)

/-- A value, behind the parts of it already read. -/
def value (size : Nat) : Nat → List Char → Reader (List Char)
  | 0, _ => failure
  | fuel + 1, parts => do
    match ← peek? with
    | some '"' => value size fuel (parts ++ (← quotedPart '"'))
    | some '\'' => value size fuel (parts ++ (← quotedPart '\''))
    | _ =>
      let line ← upTo ['\n', '\r'] true size []
      let line := (line.reverse.dropWhile isBlank).reverse
      pure (parts ++ if parts.isEmpty then line.dropWhile isBlank else line)
where
  /-- A part of a value between quotes. -/
  quotedPart (quote : Char) : Reader (List Char) := do
    char quote
    let cs ← upTo [quote] false size []
    char quote
    pure cs

/-- A section: its name, unless it is what stands in front of all names, and its entries. -/
abbrev Section := Option String × List (String × String)

/-- The sections of a file, behind those already read, of which the last one is the first of the
list. `atStart` says that a line begins. -/
def sections (size : Nat) : Nat → Bool → Section → List Section → Reader (List Section)
  | 0, _, _, _ => failure
  | fuel + 1, atStart, current, before => do
    let skipped ← spanning isBlank
    let atStart := (skipped.getLast?.map (· == '\n')).getD atStart
    match ← peek? with
    | none => pure (current :: before).reverse
    | some ';' | some '#' =>
      if !atStart then failure
      discard (spanning (· != '\n'))
      sections size fuel false current before
    | some '[' =>
      char '['
      let name := String.ofList (trimChars (← upTo [']'] false size []))
      char ']'
      sections size fuel false (some name, []) (current :: before)
    | some _ =>
      let key := trimChars (← upTo ['=', ':'] false size [])
      if key.isEmpty then failure
      let _ ← next
      discard (spanning fun c => isBlank c && c != '\n' && c != '\r')
      let v ← value size size []
      let entry := (String.ofList key, String.ofList v)
      sections size fuel false (current.1, current.2 ++ [entry]) before

/-- The value of an INI text. -/
def read? (origin : Option String) (s : String) : Option ConfigValue :=
  let size := s.length + 1
  ((sections size size true (none, []) []).read? s).map fun sections =>
    let texts (entries : List (String × String)) :=
      entries.map fun (key, v) => (key, ConfigValue.leaf origin (.text v))
    .table origin (entriesOf (sections.flatMap fun (name, entries) =>
      match name with
      | none => texts entries
      | some name => [(name, .table origin (entriesOf (texts entries)))]))

end TopicConsumer.Ini
