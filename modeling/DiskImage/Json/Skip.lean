import DiskImage.Json.Token

/-! Skipping one JSON value of any nesting depth, character by character, with the open brackets on
a stack. Strings are not decoded and numbers not evaluated. -/
namespace DiskImage.Json

inductive Bracket
  | list
  | object
  deriving DecidableEq, Repr

/-- What the text so far asks for next. -/
inductive SkipState
  /-- A value. -/
  | value
  /-- The first item of a list, or its end. -/
  | firstItem
  /-- The first key of an object, or its end. -/
  | firstKey
  /-- A key after a comma. -/
  | nextKey
  | colon
  /-- A comma or the end of the innermost bracket. -/
  | separator
  /-- The rest of a string. -/
  | text (isKey : Bool)
  | escape (isKey : Bool)
  /-- So many more characters of a string. -/
  | unit (isKey : Bool) (left : Nat)
  /-- The rest of a word. -/
  | word (rest : List Char)
  /-- The parts of a number, each named for what was read last. -/
  | minus
  | zero
  | digits
  | point
  | fraction
  | exponent
  | exponentSign
  | exponentDigits
  deriving DecidableEq, Repr

inductive SkipStep
  | go (state : SkipState) (stack : List Bracket)
  /-- The value ended with this character. -/
  | finish
  /-- The value ended before this character. -/
  | finishBefore
  | fail (fault : ConfigFault)
  deriving DecidableEq, Repr

def SkipStep.afterValue : List Bracket → SkipStep
  | [] => finish
  | stack => go .separator stack

def SkipStep.afterText (isKey : Bool) (stack : List Bracket) : SkipStep :=
  if isKey then go .colon stack else afterValue stack

def separatorStep (stack : List Bracket) (c : Char) : SkipStep :=
  if isBlank c then .go .separator stack
  else
    match stack with
    | [] => .finishBefore
    | .list :: outer =>
      if c = ',' then .go .value stack
      else if c = ']' then .afterValue outer
      else .fail .malformed
    | .object :: outer =>
      if c = ',' then .go .nextKey stack
      else if c = '}' then .afterValue outer
      else .fail .malformed

def afterNumber (stack : List Bracket) (c : Char) : SkipStep :=
  if stack.isEmpty then .finishBefore else separatorStep stack c

def valueStep (stack : List Bracket) (c : Char) : SkipStep :=
  if isBlank c then .go .value stack
  else if c = 'n' then .go (.word ['u', 'l', 'l']) stack
  else if c = 't' then .go (.word ['r', 'u', 'e']) stack
  else if c = 'f' then .go (.word ['a', 'l', 's', 'e']) stack
  else if c = '-' then .go .minus stack
  else if c = '0' then .go .zero stack
  else if isDigit c then .go .digits stack
  else if c = '"' then .go (.text false) stack
  else if c = '[' then .go .firstItem (.list :: stack)
  else if c = '{' then .go .firstKey (.object :: stack)
  else .fail .malformed

def keyStep (state : SkipState) (stack : List Bracket) (c : Char) : SkipStep :=
  if isBlank c then .go state stack
  else if c = '"' then .go (.text true) stack
  else .fail .malformed

def isExponentMark (c : Char) : Bool := c = 'e' || c = 'E'

def skipStep (state : SkipState) (stack : List Bracket) (c : Char) (rest : List Char) : SkipStep :=
  match state with
  | .value => valueStep stack c
  | .firstItem =>
    if isBlank c then .go .firstItem stack
    else if c = ']' then .afterValue stack.tail
    else valueStep stack c
  | .firstKey => if c = '}' then .afterValue stack.tail else keyStep .firstKey stack c
  | .nextKey => keyStep .nextKey stack c
  | .colon =>
    if isBlank c then .go .colon stack
    else if c = ':' then .go .value stack
    else .fail .malformed
  | .separator => separatorStep stack c
  | .text isKey =>
    if c = '"' then .afterText isKey stack
    else if c = '\\' then .go (.escape isKey) stack
    else if c < ' ' then .fail .malformed
    else .go (.text isKey) stack
  | .escape isKey =>
    if c = 'u' then
      match readHex4 rest with
      | .error fault => .fail fault
      | .ok _ => .go (.unit isKey 3) stack
    else if (shortEscape c).isSome then .go (.text isKey) stack
    else .fail .malformed
  | .unit isKey 0 => .go (.text isKey) stack
  | .unit isKey (left + 1) => .go (.unit isKey left) stack
  | .word [] => .fail .malformed
  | .word [w] => if c = w then .afterValue stack else .fail .malformed
  | .word (w :: word) => if c = w then .go (.word word) stack else .fail .malformed
  | .minus =>
    if c = '0' then .go .zero stack
    else if isDigit c then .go .digits stack
    else .fail .malformed
  | .zero =>
    if isDigit c then .fail .malformed
    else if c = '.' then .go .point stack
    else if isExponentMark c then .go .exponent stack
    else afterNumber stack c
  | .digits =>
    if isDigit c then .go .digits stack
    else if c = '.' then .go .point stack
    else if isExponentMark c then .go .exponent stack
    else afterNumber stack c
  | .point => if isDigit c then .go .fraction stack else .fail .malformed
  | .fraction =>
    if isDigit c then .go .fraction stack
    else if isExponentMark c then .go .exponent stack
    else afterNumber stack c
  | .exponent =>
    if c = '+' ∨ c = '-' then .go .exponentSign stack
    else if isDigit c then .go .exponentDigits stack
    else .fail .malformed
  | .exponentSign => if isDigit c then .go .exponentDigits stack else .fail .malformed
  | .exponentDigits => if isDigit c then .go .exponentDigits stack else afterNumber stack c

/-- The text ends here: only a number that stands alone is complete, and a number cut short is
malformed rather than truncated. -/
def skipEnd (state : SkipState) (stack : List Bracket) : Except ConfigFault (List Char) :=
  match state with
  | .zero | .digits | .fraction | .exponentDigits =>
    if stack.isEmpty then .ok [] else .error .truncated
  | .minus | .point | .exponent | .exponentSign => .error .malformed
  | _ => .error .truncated

def skip (state : SkipState) (stack : List Bracket) : List Char → Except ConfigFault (List Char)
  | [] => skipEnd state stack
  | c :: rest =>
    match skipStep state stack c rest with
    | .go state stack => skip state stack rest
    | .finish => .ok rest
    | .finishBefore => .ok (c :: rest)
    | .fail fault => .error fault

def skipValue (s : List Char) : Except ConfigFault (List Char) := skip .value [] s

theorem length_skip {state : SkipState} {stack : List Bracket} {s rest : List Char}
    (h : skip state stack s = .ok rest) : rest.length ≤ s.length := by
  induction s generalizing state stack with
  | nil =>
    simp only [skip, skipEnd] at h
    repeat' split at h
    all_goals cases h
    all_goals exact Nat.le_refl _
  | cons c s ih =>
    simp only [skip] at h
    split at h
    · exact Nat.le_succ_of_le (ih h)
    · cases h; exact Nat.le_succ _
    · cases h; exact Nat.le_refl _
    · cases h

theorem length_skipValue {s rest : List Char} (h : skipValue s = .ok rest) :
    rest.length ≤ s.length :=
  length_skip h

end DiskImage.Json
