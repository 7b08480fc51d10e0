import SmartQuotes.Script.Character

/-!
# Bodies of regular expressions

Whether the body of a regular expression is well formed. The dialect has groups that capture, that
do not, that are atomic, named, conditional or carry flags, assertions in both directions, greedy,
lazy and possessive repeats, and references by number or name. What is read of an item is its width,
the least and the greatest number of characters that it may match: an assertion that looks back
needs both to be the same.
-/

namespace SmartQuotes.Script.Pattern

open Text.Class

/-- A character, or a character behind a backslash. -/
inductive Sign
  | plain (point : Nat)
  | escaped (point : Nat)
deriving DecidableEq, Repr

/-- The least and the greatest number of characters that are matched. -/
abbrev Width := Nat × Nat

/-- No width is told from a greater one beyond this. -/
def widest : Nat := 0x10000000000000000

/-- A repeat may not be bounded by this number or a greater one. -/
def unbounded : Nat := 0xffffffff

/-- An assertion may not look back this number of characters or more. -/
def beyondSight : Nat := 0x80000000

inductive Item.Kind
  | anchor
  | repeated
  | other
deriving DecidableEq, Repr

/-- What has been read of an item of a sequence. -/
structure Item where
  kind : Item.Kind
  width : Width

/-- The rest of the body, the widths of the groups that are closed, their names, and what restricts
references and flags; `repeats` says whether anything is repeated. -/
structure State where
  rest : List Sign
  groups : List (Option Width) := [none]
  names : List (List Nat × Nat) := []
  lookBehind : Option Nat := none
  conditions : List Nat := []
  verbose : Bool := false
  ascii : Bool := false
  unicode : Bool := false
  template : Bool := false
  repeats : Bool := false

/-- A reader that gives up at the first mistake. -/
abbrev Reader := StateT State Option

def peek : Reader (Option Sign) := return (← get).rest.head?

def get? : Reader (Option Sign) := do
  let s ← get
  set { s with rest := s.rest.drop 1 }
  return s.rest.head?

/-- Read the given plain character if it is next. -/
def accept (c : Char) : Reader Bool := do
  if (← peek) == some (.plain c.toNat) then
    let _ ← get?
    return true
  else return false

/-- Read the given plain character. -/
def demand (c : Char) : Reader Unit := do
  guard (← accept c)

/-- Read the plain characters in front that satisfy `p`, at most `limit` of them. -/
def run (p : Char → Bool) (limit : Nat) : Reader (List Nat) := do
  let points := ((← get).rest.take limit).map fun s => match s with
    | .plain n => if p (Char.ofNat n) then some n else none
    | .escaped _ => none
  let found := (points.takeWhile (·.isSome)).filterMap id
  modify fun s => { s with rest := s.rest.drop found.length }
  return found

/-- The number that digits of a base write. -/
def number (base : Nat) (digits : List Nat) : Nat :=
  digits.foldl (fun v d => base * v + ((hexValue? (Char.ofNat d)).getD 0)) 0

/-! ## Escapes -/

/-- An escape for a code point: the letter fixes how many hexadecimal digits follow. -/
def hexEscape (letter : Char) : Reader (Option Nat) := do
  let count := if letter == 'x' then 2 else if letter == 'u' then 4 else 8
  let digits ← run isHexDigit count
  guard (digits.length = count)
  let value := number 16 digits
  guard (letter != 'U' || value ≤ 0x10ffff)
  return some value

/-- The escapes that stand for one control character. -/
def controlEscape? (c : Char) : Option Nat :=
  [('a', 7), ('f', 12), ('n', 10), ('r', 13), ('t', 9), ('v', 11), ('\\', 92)].lookup c

/-- An escape between square brackets: its code point, or `none` for a class of characters. -/
def classEscape (point : Nat) : Reader (Option Nat) := do
  let c := Char.ofNat point
  if let some n := controlEscape? c then return some n
  if c == 'b' then return some 8
  if ['d', 'D', 's', 'S', 'w', 'W'].contains c then return none
  if c == 'x' || c == 'u' || c == 'U' then hexEscape c
  else if isOctalDigit c then
    let more ← run isOctalDigit 2
    let value := number 8 (point :: more)
    guard (value ≤ 0xff)
    return some value
  else
    guard !(isAsciiDigit c || isAsciiLetter c)
    return some point

/-- Refuse a reference to a group that is open, or that an assertion looking back defines. -/
def checkReference (group : Nat) : Reader Width := do
  let s ← get
  match s.groups[group]?.join with
  | none => failure
  | some width =>
    if let some limit := s.lookBehind then guard (group < limit)
    return width

/-- Refuse a condition on a group that an assertion looking back could not have seen closed. -/
def checkCondition (group : Nat) : Reader Unit := do
  if (← get).lookBehind.isSome then
    let _ ← checkReference group

/-- An escape outside square brackets. -/
def escape (point : Nat) : Reader Item := do
  let c := Char.ofNat point
  if ['A', 'b', 'B', 'Z'].contains c then return ⟨.anchor, 0, 0⟩
  if (controlEscape? c).isSome || ['d', 'D', 's', 'S', 'w', 'W'].contains c then
    return ⟨.other, 1, 1⟩
  if c == 'x' || c == 'u' || c == 'U' then
    let _ ← hexEscape c
    return ⟨.other, 1, 1⟩
  if c == '0' then
    let _ ← run isOctalDigit 2
    return ⟨.other, 1, 1⟩
  if isAsciiDigit c then
    let second ← run isAsciiDigit 1
    let octal := isOctalDigit c && second.all (fun d => isOctalDigit (Char.ofNat d)) &&
      !second.isEmpty
    let third ← if octal then run isOctalDigit 1 else pure []
    if !third.isEmpty then
      guard (number 8 (point :: second ++ third) ≤ 0xff)
      return ⟨.other, 1, 1⟩
    return ⟨.other, ← checkReference (number 10 (point :: second))⟩
  guard !(isAsciiLetter c)
  return ⟨.other, 1, 1⟩

/-! ## Sets of characters -/

/-- A member of a set: its code point, or `none` for a class of characters. -/
def member (s : Sign) : Reader (Option Nat) :=
  match s with
  | .plain n => return some n
  | .escaped n => classEscape n

/-- The rest of a set behind its opening bracket. -/
def setRest (fuel : Nat) (first : Bool) : Reader Unit :=
  match fuel with
  | 0 => failure
  | fuel + 1 => do
    let some s ← get? | failure
    if s == .plain ']'.toNat && !first then return
    let low ← member s
    if ← accept '-' then
      let some t ← get? | failure
      if t == .plain ']'.toNat then return
      let high ← member t
      match low, high with
      | some a, some b => guard (a ≤ b)
      | _, _ => failure
    setRest fuel false

/-! ## Repeats -/

/-- The bounds in braces, the opening one already read; `none` when the brace stands for itself. -/
def bounds : Reader (Option (Nat × Option Nat)) := do
  let start ← get
  if (← peek) == some (.plain 0x7d) then return none
  let low ← run isAsciiDigit start.rest.length
  let high ← if ← accept ',' then run isAsciiDigit start.rest.length else pure low
  if ← accept '\x7d' then
    let least := number 10 low
    guard (least < unbounded)
    if high.isEmpty then return some (least, none)
    let most := number 10 high
    guard (most < unbounded && least ≤ most)
    return some (least, some most)
  else
    set start
    return none

/-- The width of a repeat. -/
def repeatWidth (w : Width) (least : Nat) (most : Option Nat) : Width :=
  (min widest (w.1 * least),
    match most with
    | some m => min widest (w.2 * m)
    | none => if w.2 = 0 then 0 else widest)

/-- Repeat the last of the items, which are given newest first. -/
def repeatLast (items : List Item) (least : Nat) (most : Option Nat) : Reader (List Item) := do
  match items with
  | [] => failure
  | item :: before =>
    guard (item.kind == .other)
    unless ← accept '?' do
      let _ ← accept '+'
    modify fun s => { s with repeats := true }
    return ⟨.repeated, repeatWidth item.width least most⟩ :: before

/-! ## Groups -/

/-- The characters up to a terminator, of which there is at least one. -/
def nameUntil (fuel : Nat) (terminator : Char) : Reader (List Nat) :=
  match fuel with
  | 0 => failure
  | fuel + 1 => do
    match ← get? with
    | some (.plain n) =>
      if n = terminator.toNat then return [] else return n :: (← nameUntil fuel terminator)
    | _ => failure

/-- Letters whose compatibility form is no part of a name. -/
def unstable : List (Nat × Nat) :=
  [(0x37a, 0x37a), (0x2e2f, 0x2e2f), (0x309b, 0x309c), (0xfc5e, 0xfc63), (0xfdfa, 0xfdfb),
   (0xfe70, 0xfe70), (0xfe72, 0xfe72), (0xfe74, 0xfe74), (0xfe76, 0xfe76), (0xfe78, 0xfe78),
   (0xfe7a, 0xfe7a), (0xfe7c, 0xfe7c), (0xfe7e, 0xfe7e)]

/-- Letters whose compatibility form is part of a name, but starts none. -/
def unstableStart : List (Nat × Nat) := [(0xe33, 0xe33), (0xeb3, 0xeb3), (0xff9e, 0xff9f)]

/-- Whether a group may have the name. It has to be a name in its compatibility form, too; joiners
are no part of it. -/
def isGroupName (name : List Nat) : Bool :=
  let isPart (n : Nat) : Bool :=
    let c := Char.ofNat n
    isNamePart c && c != '$' && c != '\\' && n != 0x200c && n != 0x200d && !within n unstable
  match name with
  | [] => false
  | n :: _ => isNameStart (Char.ofNat n) && !within n unstableStart && name.all isPart

/-- The value of digits with single underscores between them. -/
def groupDigits (value : Nat) : List Char → Option Nat
  | [] => none
  | c :: cs =>
    (digitValue? c).bind fun d =>
      match cs with
      | [] => some (10 * value + d)
      | '_' :: cs => groupDigits (10 * value + d) cs
      | cs => groupDigits (10 * value + d) cs

/-- The number of a group, which blanks may surround and a sign may precede. -/
def groupNumber? (name : List Nat) : Option Nat :=
  match Text.strip (name.map Char.ofNat) with
  | '+' :: cs => groupDigits 0 cs
  | cs => groupDigits 0 cs

/-- Whether a flag fixes what letters and digits are. -/
def isTypeFlag (c : Char) : Bool := c == 'a' || c == 'u'

def isFlag (c : Char) : Bool := ['i', 'm', 's', 'x', 'a', 't', 'u'].contains c

/-- The flags in front. -/
def flags (fuel : Nat) : Reader (List Char) := do
  let found ← run isFlag fuel
  return found.map Char.ofNat

/-- What a group that starts with a flag or a hyphen turns on and off; `none` when it only sets
flags for the whole body. -/
def groupFlags : Reader (Option (List Char × List Char)) := do
  let limit := (← get).rest.length
  let on ← flags limit
  guard !(on.contains 'a' && on.contains 'u')
  if !on.isEmpty then
    if ← accept ')' then
      modify fun s => { s with
        verbose := s.verbose || on.contains 'x'
        ascii := s.ascii || on.contains 'a'
        unicode := s.unicode || on.contains 'u'
        template := s.template || on.contains 't' }
      return none
  guard !(on.contains 't')
  let off ← if ← accept '-' then do
      let off ← flags limit
      guard (!off.isEmpty && !off.any fun c => isTypeFlag c || c == 't')
      pure off
    else pure []
  demand ':'
  guard !(on.any off.contains)
  return some (on, off)

/-- Close a group that captures. -/
def closeGroup (group : Nat) (width : Width) : Reader Unit :=
  modify fun s => { s with groups := s.groups.set group (some width) }

/-- Open a group that captures. -/
def openGroup (name : Option (List Nat)) : Reader Nat := do
  let s ← get
  if let some name := name then guard (s.names.lookup name).isNone
  let group := s.groups.length
  set { s with groups := s.groups ++ [none]
               names := match name with
                 | some name => (name, group) :: s.names
                 | none => s.names }
  return group

/-- The width of a sequence of items. -/
def totalWidth (items : List Item) : Width :=
  (min widest (total (items.map (·.width.1))), min widest (total (items.map (·.width.2))))

/-- The width of a choice. -/
def choiceWidth (a b : Width) : Width := (min a.1 b.1, max a.2 b.2)

/-- Skip the rest of a line. -/
def skipComment (fuel : Nat) : Reader Unit :=
  match fuel with
  | 0 => failure
  | fuel + 1 => do
    match ← get? with
    | none => return
    | some s => if s == .plain 10 then return else skipComment fuel

/-- Skip a comment in parentheses. -/
def skipNote (fuel : Nat) : Reader Unit :=
  match fuel with
  | 0 => failure
  | fuel + 1 => do
    match ← get? with
    | none => failure
    | some s => if s == .plain ')'.toNat then return else skipNote fuel

mutual

/-- Alternatives between bars. `nested` says that they stand in parentheses. -/
def alternatives (fuel : Nat) (verbose nested first : Bool) : Reader Width :=
  match fuel with
  | 0 => failure
  | fuel + 1 => do
    let width ← sequence fuel verbose nested (first && !nested) []
    if ← accept '|' then
      let everywhere := (← get).verbose
      let verbose := if nested then verbose else everywhere
      return choiceWidth width (← alternatives fuel verbose nested false)
    else return width

/-- The rest of a sequence behind the given items, newest first. -/
def sequence (fuel : Nat) (verbose nested first : Bool) (items : List Item) : Reader Width :=
  match fuel with
  | 0 => failure
  | fuel + 1 => do
    match ← peek with
    | none => return totalWidth items
    | some (.escaped n) =>
      let _ ← get?
      let item ← escape n
      sequence fuel verbose nested first (item :: items)
    | some (.plain n) =>
      let c := Char.ofNat n
      if c == '|' || c == ')' then return totalWidth items
      let _ ← get?
      let limit := (← get).rest.length + 1
      if verbose && [' ', '\t', '\n', '\r', '\x0b', '\x0c'].contains c then
        sequence fuel verbose nested first items
      else if verbose && c == '#' then
        skipComment limit
        sequence fuel verbose nested first items
      else if c == '[' then
        let _ ← accept '^'
        setRest limit true
        sequence fuel verbose nested first (⟨.other, 1, 1⟩ :: items)
      else if c == '*' then
        sequence fuel verbose nested first (← repeatLast items 0 none)
      else if c == '+' then
        sequence fuel verbose nested first (← repeatLast items 1 none)
      else if c == '?' then
        sequence fuel verbose nested first (← repeatLast items 0 (some 1))
      else if c == '\x7b' then
        match ← bounds with
        | none => sequence fuel verbose nested first (⟨.other, 1, 1⟩ :: items)
        | some (least, most) =>
          sequence fuel verbose nested first (← repeatLast items least most)
      else if c == '^' || c == '$' then
        sequence fuel verbose nested first (⟨.anchor, 0, 0⟩ :: items)
      else if c == '(' then
        if ← accept '?' then
          match ← peek with
          | some (.plain m) =>
            let d := Char.ofNat m
            if isFlag d || d == '-' then
              match ← groupFlags with
              | none =>
                guard (first && items.isEmpty)
                sequence fuel (← get).verbose nested first items
              | some (on, off) =>
                let verbose' := (verbose || on.contains 'x') && !off.contains 'x'
                let width ← alternatives fuel verbose' true false
                demand ')'
                sequence fuel verbose nested first (⟨.other, width⟩ :: items)
            else
              let _ ← get?
              if d == ':' || d == '>' then
                let width ← alternatives fuel verbose true false
                demand ')'
                sequence fuel verbose nested first (⟨.other, width⟩ :: items)
              else if d == '#' then
                skipNote limit
                sequence fuel verbose nested first items
              else if d == '=' || d == '!' then
                let _ ← alternatives fuel verbose true false
                demand ')'
                sequence fuel verbose nested first (⟨.other, 0, 0⟩ :: items)
              else if d == '<' then
                unless ← accept '=' do demand '!'
                let before := (← get).lookBehind
                if before.isNone then
                  modify fun s => { s with lookBehind := some s.groups.length }
                let width ← alternatives fuel verbose true false
                modify fun s => { s with lookBehind := before }
                demand ')'
                guard (width.1 = width.2 && width.1 < beyondSight)
                sequence fuel verbose nested first (⟨.other, 0, 0⟩ :: items)
              else if d == '(' then
                let name ← nameUntil limit ')'
                if isGroupName name then
                  let some group := (← get).names.lookup name | failure
                  checkCondition group
                else
                  let some group := groupNumber? name | failure
                  guard (group != 0)
                  modify fun s => { s with conditions := group :: s.conditions }
                  checkCondition group
                let yes ← sequence fuel verbose true false []
                let no ← if ← accept '|' then sequence fuel verbose true false []
                  else pure (0, yes.2)
                demand ')'
                sequence fuel verbose nested first (⟨.other, choiceWidth yes no⟩ :: items)
              else if d == 'P' then
                if ← accept '<' then
                  let name ← nameUntil limit '>'
                  guard (isGroupName name)
                  let group ← openGroup (some name)
                  let width ← alternatives fuel verbose true false
                  demand ')'
                  closeGroup group width
                  sequence fuel verbose nested first (⟨.other, width⟩ :: items)
                else
                  demand '='
                  let name ← nameUntil limit ')'
                  let some group := (← get).names.lookup name | failure
                  let width ← checkReference group
                  sequence fuel verbose nested first (⟨.other, width⟩ :: items)
              else failure
          | _ => failure
        else
          let group ← openGroup none
          let width ← alternatives fuel verbose true false
          demand ')'
          closeGroup group width
          sequence fuel verbose nested first (⟨.other, width⟩ :: items)
      else sequence fuel verbose nested first (⟨.other, 1, 1⟩ :: items)

end

/-! ## Whole bodies -/

/-- The signs of a body; there are none if it ends in a backslash. -/
def signs : List Nat → Option (List Sign)
  | [] => some []
  | [n] => if n = '\\'.toNat then none else some [.plain n]
  | n :: m :: rest =>
    if n = '\\'.toNat then (signs rest).map (.escaped m :: ·)
    else (signs (m :: rest)).map (.plain n :: ·)

/-- The code points of a body, the escapes of code points put in; every code point beyond the basic
plane counts as the last one of that plane. There are none if a number exceeds all code points. -/
def points (t : Text) : Option (List Nat) :=
  match t with
  | [] => some []
  | '\\' :: 'u' :: rest =>
    let braced := match rest with
      | '\x7b' :: digits =>
        let run := digits.takeWhile isHexDigit
        if !run.isEmpty && (digits.drop run.length).head? == some '\x7d' then
          some (run, digits.drop (run.length + 1))
        else none
      | _ => none
    let found := match braced with
      | some r => some r
      | none =>
        let run := (rest.take 4).takeWhile isHexDigit
        if run.length = 4 then some (run, rest.drop 4) else none
    match found with
    | some (run, after) =>
      let value := number 16 (run.map Char.toNat)
      if value > 0x10ffff then none
      else (points (rest.drop (rest.length - after.length))).map
        ((if value ≤ 0xffff then value else 0xffff) :: ·)
    | none => (points ('u' :: rest)).map ('\\'.toNat :: ·)
  | c :: rest => (points rest).map (c.toNat :: ·)
termination_by t.length

/-- Two escapes that together stand for one code point count as one character. -/
def joinHalves : List Nat → List Nat
  | [] => []
  | [n] => [n]
  | n :: m :: rest =>
    if 0xd800 ≤ n && n < 0xdc00 && 0xdc00 ≤ m && m < 0xe000 then 0xffff :: joinHalves rest
    else n :: joinHalves (m :: rest)

/-- Whether the body of a regular expression is well formed. -/
def isValid (body : Text) : Bool :=
  match ((points body).map joinHalves).bind signs with
  | none => false
  | some signs =>
    match (alternatives (3 * signs.length + 5) false false true).run { rest := signs } with
    | none => false
    | some (_, s) =>
      s.rest.isEmpty && s.conditions.all (· < s.groups.length) && !(s.ascii && s.unicode) &&
        !(s.template && s.repeats)

end SmartQuotes.Script.Pattern
