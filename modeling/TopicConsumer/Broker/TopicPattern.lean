import TopicConsumer.Text.Reader

/-!
# Patterns of topics

A pattern is an extended regular expression. It is read byte by byte, so that a character of several
bytes stands for its bytes one after the other, and a range in a set goes by the values of bytes.

* Only what may match something can be repeated: not an anchor, and not the beginning of the
pattern, of a group or of an alternative. A brace that opens an interval is read like the other
signs of repetition; one that closes none, and a parenthesis that closes no group, stand for
themselves. * A reference may name a group that is closed where it stands, whichever alternative was
taken. * In a set nothing is escaped. A hyphen stands for itself first and last in a set, at the end
of a range, and where three of them are written in a row; elsewhere it makes a range.
-/

namespace TopicConsumer.TopicPattern

open Text (Reader)

/-! ## Intervals -/

/-- A bound of an interval that is not written counts as none, and a sign behind it is told. -/
def bound : Nat → Option Nat → Reader (Option Nat × Char)
  | 0, _ => failure
  | fuel + 1, sofar => do
    let c ← Reader.next
    if c = '\x7d' ∨ c = ',' then pure (sofar, c)
    else
      let escaped := c = '\\'
      let c ← if escaped then Reader.next else pure c
      if escaped ∧ c = ',' then pure (sofar, c)
      else
        guard ('0' ≤ c ∧ c ≤ '9' ∧ (escaped → c = '0'))
        bound fuel (some (sofar.getD 0 * 10 + (c.toNat - '0'.toNat)))

/-- How often something may be repeated at most. -/
def mostRepeated : Nat := 32767

/-- The rest of an interval, behind the opening brace. -/
def interval (fuel : Nat) : Reader Unit := do
  let (least, sign) ← bound fuel none
  if sign = '\x7d' then guard (least.any (· ≤ mostRepeated))
  else
    let (greatest, sign) ← bound fuel none
    let least := least.getD 0
    guard (sign = '\x7d' ∧ least ≤ greatest.getD least ∧ greatest.getD least ≤ mostRepeated)

/-! ## Sets -/

/-- What stands next in a set. -/
inductive SetSign where
  | closing
  | hyphen
  | byte (c : Char)
  /-- A name follows, up to this character and a closing bracket. -/
  | named (delimiter : Char)
  deriving DecidableEq

/-- A part of a set. -/
inductive SetPart where
  | byte (c : Char)
  /-- A class of bytes. -/
  | anyOf
  deriving DecidableEq

/-- Reads what stands next in a set. -/
def SetSign.read : Reader SetSign
  | [] => none
  | ']' :: rest => some (.closing, rest)
  | '-' :: '-' :: '-' :: rest => some (.byte '-', rest)
  | '-' :: rest => some (.hyphen, rest)
  | '[' :: c :: rest =>
    if c = '.' ∨ c = '=' ∨ c = ':' then some (.named c, rest) else some (.byte '[', c :: rest)
  | c :: rest => some (.byte c, rest)

/-- The bytes that a name in a set has at most. -/
def longestName : Nat := 31

/-- A name in a set, and what closes it. -/
def SetSign.name (delimiter : Char) : Nat → Reader (List Char)
  | 0 => failure
  | fuel + 1 => do
    let c ← Reader.next
    let closes ← if c = delimiter then Reader.accept [']'] else pure false
    if closes then pure []
    else pure (c :: (← name delimiter fuel))

/-- The classes of characters that have a name. -/
def classes : List String :=
  ["alnum", "alpha", "blank", "cntrl", "digit", "graph", "lower", "print", "punct", "space",
    "upper", "xdigit"]

/-- The part of a set that begins with a sign. A hyphen may stand for itself here, or it has to be
the last part. -/
def SetPart.read (hyphenAllowed : Bool) : SetSign → Reader SetPart
  | .closing => pure (.byte ']')
  | .hyphen => fun rest =>
    if hyphenAllowed || rest.head? == some ']' then some (.byte '-', rest) else none
  | .byte c => pure (.byte c)
  | .named delimiter => do
    let name ← SetSign.name delimiter (longestName + 1)
    if delimiter = ':' then
      guard (classes.contains (String.ofList name))
      pure .anyOf
    else
      let [c] := name | failure
      pure (if delimiter = '.' then .byte c else .anyOf)

/-- The parts of a set from the one that begins with a sign on. -/
def setParts : Nat → Bool → SetSign → Reader Unit
  | 0, _, _ => failure
  | fuel + 1, first, sign => do
    let part ← SetPart.read first sign
    let sign ← SetSign.read
    match part, sign with
    | .byte low, .hyphen =>
      let stop ← SetSign.read
      if stop = .closing then pure ()
      else
        let .byte high ← SetPart.read true stop | failure
        guard (low ≤ high)
        let sign ← SetSign.read
        if sign = .closing then pure () else setParts fuel false sign
    | _, .closing => pure ()
    | _, sign => setParts fuel false sign

/-- The rest of a set, behind the opening bracket. A closing bracket that comes first stands for
itself. -/
def set (fuel : Nat) : Reader Unit := do
  let _ ← Reader.accept ['^']
  setParts fuel true (← SetSign.read)

/-! ## Patterns -/

/-- What stands next in a pattern. -/
inductive Sign where
  /-- Something that matches one byte. -/
  | single
  | anchor
  | repetition
  | interval
  | set
  | opening
  | closing
  | bar
  | reference (group : Nat)
  deriving DecidableEq

/-- Reads what stands next in a pattern. -/
def Sign.read : Reader Sign := do
  let c ← Reader.next
  if c = '\\' then
    let c ← Reader.next
    if '1' ≤ c ∧ c ≤ '9' then pure (.reference (c.toNat - '0'.toNat))
    else if "<>bB`'".toList.contains c then pure .anchor
    else pure .single
  else if c = '^' ∨ c = '$' then pure .anchor
  else if c = '*' ∨ c = '+' ∨ c = '?' then pure .repetition
  else if c = '\x7b' then pure .interval
  else if c = '[' then pure .set
  else if c = '(' then pure .opening
  else if c = ')' then pure .closing
  else if c = '|' then pure .bar
  else pure .single

/-- A group that has not been closed, or the whole pattern. -/
structure Group where
  number : Nat
  /-- The groups that were closed where it begins. -/
  before : List Nat
  /-- The groups that are closed in the alternatives that have been read. -/
  elsewhere : List Nat

/-- How far a pattern has been read. -/
structure Progress where
  /-- How many groups have been opened. -/
  opened : Nat
  /-- The groups that are closed. -/
  closed : List Nat
  /-- There is something to be repeated. -/
  repeatable : Bool
  inner : Group
  /-- The groups around it, the innermost first. -/
  around : List Group

/-- The groups of two lists, each of them once if the lists name it once. -/
def eitherOf (xs ys : List Nat) : List Nat := xs ++ ys.filter (!xs.contains ·)

/-- The beginning of a pattern. -/
def Progress.beginning : Progress := ⟨0, [], false, ⟨0, [], []⟩, []⟩

/-- Reads a sign, and what belongs to it. -/
def Progress.step (fuel : Nat) (s : Progress) : Reader Progress := do
  match ← Sign.read with
  | .single => pure { s with repeatable := true }
  | .anchor => pure { s with repeatable := false }
  | .repetition => guard s.repeatable; pure s
  | .interval => guard s.repeatable; interval fuel; pure s
  | .set => set fuel; pure { s with repeatable := true }
  | .reference group => guard (s.closed.contains group); pure { s with repeatable := true }
  | .opening =>
    let group := s.opened + 1
    pure ⟨group, s.closed, false, ⟨group, s.closed, []⟩, s.inner :: s.around⟩
  | .bar =>
    let inner := { s.inner with elsewhere := eitherOf s.closed s.inner.elsewhere }
    pure { s with closed := inner.before, inner, repeatable := false }
  | .closing =>
    match s.around with
    | [] => pure { s with repeatable := true }
    | inner :: around =>
      let closed := s.inner.number :: eitherOf s.closed s.inner.elsewhere
      pure { s with closed, inner, around, repeatable := true }

/-- A pattern is read to its end, where every group is closed. -/
def Progress.finish (length : Nat) : Nat → Progress → Reader Unit
  | 0, s => do guard s.around.isEmpty; Reader.atEnd
  | fuel + 1, s => do
    match ← Reader.peek? with
    | none => guard s.around.isEmpty
    | some _ => finish length fuel (← s.step length)

/-- The bytes of a text, each as the character of that number. -/
def bytes (s : String) : List Char := s.toUTF8.toList.map fun b => Char.ofNat b.toNat

/-- The pattern can be read. -/
def isValid (pattern : String) : Bool :=
  let pattern := bytes pattern
  (Progress.finish pattern.length pattern.length .beginning pattern).isSome

end TopicConsumer.TopicPattern
