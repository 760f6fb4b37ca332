import DiskImage.Json.Skip
import DiskImage.Proofs.Json.Grammar

/-! Skipping passes over exactly one value of the grammar, of any nesting depth, and leaves the text
behind it. -/
namespace DiskImage.Json

variable {stack : List Bracket} {state next : SkipState} {c : Char} {s rest : List Char}

/-- Behind a value: outside all brackets the skipping is over. -/
def resume : List Bracket → List Char → Except ConfigFault (List Char)
  | [], rest => .ok rest
  | stack, rest => skip .separator stack rest

def NumberEnds (rest : List Char) : Prop :=
  ∀ c ∈ rest.head?, isDigit c = false ∧ c ≠ '.' ∧ isExponentMark c = false

theorem skip_of_go {stack' : List Bracket} (step : skipStep state stack c rest = .go next stack') :
    skip state stack (c :: rest) = skip next stack' rest := by
  rw [skip, step]

theorem skip_of_afterValue {outer : List Bracket}
    (step : skipStep state stack c rest = .afterValue outer) :
    skip state stack (c :: rest) = resume outer rest := by
  rw [skip, step]
  cases outer <;> rfl

theorem skip_of_afterNumber (step : skipStep state stack c rest = afterNumber stack c) :
    skip state stack (c :: rest) = resume stack (c :: rest) := by
  rw [skip, step]
  cases stack <;> rfl

theorem skip_while (stays : ∀ c ∈ s, ∀ rest, skipStep state stack c rest = .go state stack)
    (rest : List Char) : skip state stack (s ++ rest) = skip state stack rest := by
  induction s with
  | nil => rfl
  | cons c s ih =>
    obtain ⟨first, others⟩ := List.forall_mem_cons.mp stays
    rw [List.cons_append, skip_of_go (first _), ih others]

def SkipState.betweenTokens : SkipState → Bool
  | value | firstItem | firstKey | nextKey | colon | separator => true
  | _ => false

theorem skip_blank (state : SkipState) (between : state.betweenTokens) (blank : Blank s)
    (stack : List Bracket) (rest : List Char) :
    skip state stack (s ++ rest) = skip state stack rest := by
  refine skip_while (fun c mem rest => ?_) rest
  have found : isBlank c := blank c mem
  have brace : c ≠ '}' := by
    rintro rfl
    cases found
  cases state with
  | value | firstItem | firstKey | nextKey | colon | separator =>
    simp [skipStep, valueStep, keyStep, separatorStep, found, brace]
  | _ => cases between

section Strings

variable {isKey : Bool}

theorem skip_stringPart {part : List Char} (written : StringPart part) (rest : List Char) :
    skip (.text isKey) stack (part ++ rest) = skip (.text isKey) stack rest := by
  cases written with
  | plain plain =>
    apply skip_of_go
    simp [skipStep, plain.quote, plain.backslash, plain.shown]
  | @letter letter c listed =>
    obtain ⟨notUnit, stands⟩ := shortEscape_of_listed _ listed
    have escape : skip (.text isKey) stack ('\\' :: letter :: rest) =
        skip (.escape isKey) stack (letter :: rest) := skip_of_go rfl
    rw [List.cons_append, List.cons_append, List.nil_append, escape]
    apply skip_of_go
    simp [skipStep, notUnit, stands]
  | @unit n digits unit =>
    have hex := readHex4_of_codeUnit unit rest
    have escape : skip (.text isKey) stack ('\\' :: 'u' :: (digits ++ rest)) =
        skip (.escape isKey) stack ('u' :: (digits ++ rest)) := skip_of_go rfl
    have opens : skip (.escape isKey) stack ('u' :: (digits ++ rest)) =
        skip (.unit isKey 3) stack (digits ++ rest) := skip_of_go (by simp [skipStep, hex])
    rw [List.cons_append, List.cons_append, escape, opens]
    cases unit
    rfl

theorem skip_stringBody {body : List Char} (written : StringBody body) (rest : List Char) :
    skip (.text isKey) stack (body ++ rest) = skip (.text isKey) stack rest := by
  induction written with
  | nil => rfl
  | cons first _ ih => rw [List.append_assoc, skip_stringPart first, ih]

end Strings

section Numbers

theorem skip_digits (reads : state = .digits ∨ state = .fraction ∨ state = .exponentDigits)
    (digits : Digits s) (rest : List Char) :
    skip state stack (s ++ rest) = skip state stack rest := by
  refine skip_while (fun c mem rest => ?_) rest
  have digit : isDigit c := digits c mem
  rcases reads with rfl | rfl | rfl <;> simp [skipStep, digit]

theorem skip_numberEnd
    (read : state = .zero ∨ state = .digits ∨ state = .fraction ∨ state = .exponentDigits)
    (ends : NumberEnds rest) : skip state stack rest = resume stack rest := by
  cases rest with
  | nil => rcases read with rfl | rfl | rfl | rfl <;> cases stack <;> rfl
  | cons c rest =>
    obtain ⟨digit, point, mark⟩ := ends c rfl
    apply skip_of_afterNumber
    rcases read with rfl | rfl | rfl | rfl <;> simp [skipStep, digit, point, mark]

theorem skip_exponentPart {power : List Char} (written : ExponentPart power)
    (read : state = .zero ∨ state = .digits ∨ state = .fraction) (ends : NumberEnds rest) :
    skip state stack (power ++ rest) = resume stack rest := by
  cases written with
  | none => exact skip_numberEnd (by grind) ends
  | @digits mark c sign s marked signed all =>
    obtain ⟨first, others⟩ := all.cons
    have start (text : List Char) :
        skip state stack (mark :: text) = skip .exponent stack text := by
      apply skip_of_go
      rcases marked with rfl | rfl <;> rcases read with rfl | rfl | rfl <;> rfl
    have digit (text : List Char) :
        skip .exponent stack (sign ++ c :: text) = skip .exponentDigits stack text := by
      have plus : c ≠ '+' := isDigit_ne first rfl
      have minus : c ≠ '-' := isDigit_ne first rfl
      have afterSign : skip .exponentSign stack (c :: text) = skip .exponentDigits stack text :=
        skip_of_go (by simp [skipStep, first])
      rcases signed with rfl | rfl | rfl
      · exact skip_of_go (by simp [skipStep, plus, minus, first])
      · exact (skip_of_go rfl).trans afterSign
      · exact (skip_of_go rfl).trans afterSign
    have more : skip .exponentDigits stack (s ++ rest) = skip .exponentDigits stack rest :=
      skip_digits (by simp) others rest
    rw [List.cons_append, start, List.append_assoc, List.cons_append, digit, more]
    exact skip_numberEnd (by simp) ends

theorem skip_fractionPart {fraction power : List Char} (behind : FractionPart fraction)
    (written : ExponentPart power) (read : state = .zero ∨ state = .digits)
    (ends : NumberEnds rest) :
    skip state stack (fraction ++ (power ++ rest)) = resume stack rest := by
  cases behind with
  | none => exact skip_exponentPart written (by grind) ends
  | @digits c s all =>
    obtain ⟨first, others⟩ := all.cons
    have point (text : List Char) : skip state stack ('.' :: text) = skip .point stack text := by
      rcases read with rfl | rfl <;> exact skip_of_go rfl
    have digit (text : List Char) : skip .point stack (c :: text) = skip .fraction stack text :=
      skip_of_go (by simp [skipStep, first])
    have more (text : List Char) : skip .fraction stack (s ++ text) = skip .fraction stack text :=
      skip_digits (by simp) others text
    rw [List.cons_append, List.cons_append, point, digit, more]
    exact skip_exponentPart written (by simp) ends

theorem valueStep_of_isDigit (digit : isDigit c) (nonzero : c ≠ '0') :
    valueStep stack c = .go .digits stack := by
  have word : c ≠ 'n' ∧ c ≠ 't' ∧ c ≠ 'f' :=
    ⟨isDigit_ne digit rfl, isDigit_ne digit rfl, isDigit_ne digit rfl⟩
  have minus : c ≠ '-' := isDigit_ne digit rfl
  simp [valueStep, isBlank_of_isDigit digit, word, minus, nonzero, digit]

theorem skip_wholePart {whole : List Char} (written : WholePart whole)
    (read : state = .value ∨ state = .minus) :
    ∃ next, (next = .zero ∨ next = .digits) ∧
      ∀ rest, skip state stack (whole ++ rest) = skip next stack rest := by
  cases written with
  | zero =>
    refine ⟨.zero, .inl rfl, fun rest => ?_⟩
    rcases read with rfl | rfl <;> exact skip_of_go rfl
  | @digits c s first nonzero others =>
    refine ⟨.digits, .inr rfl, fun rest => ?_⟩
    have digit : skip state stack (c :: (s ++ rest)) = skip .digits stack (s ++ rest) := by
      apply skip_of_go
      rcases read with rfl | rfl
      · exact valueStep_of_isDigit first nonzero
      · simp [skipStep, nonzero, first]
    rw [List.cons_append, digit]
    exact skip_digits (by simp) others rest

theorem skip_number (written : Number s) (ends : NumberEnds rest) :
    skip .value stack (s ++ rest) = resume stack rest := by
  obtain ⟨signed, before, behind, power⟩ := written
  rw [List.append_assoc, List.append_assoc, List.append_assoc]
  rcases signed with rfl | rfl
  · obtain ⟨next, read, skipped⟩ := skip_wholePart before (.inl rfl)
    rw [List.nil_append, skipped, skip_fractionPart behind power read ends]
  · obtain ⟨next, read, skipped⟩ := skip_wholePart before (.inr rfl)
    have minus (text : List Char) : skip .value stack ('-' :: text) = skip .minus stack text :=
      skip_of_go rfl
    rw [List.cons_append, List.nil_append, minus, skipped, skip_fractionPart behind power read ends]

end Numbers

theorem numberEnds_mark (mark : c = ',' ∨ c = ']' ∨ c = '}') (rest : List Char) :
    NumberEnds (c :: rest) := by
  rintro d ⟨⟩
  rcases mark with rfl | rfl | rfl <;> decide

theorem numberEnds_blank {gap : List Char} (blank : Blank gap) (ends : NumberEnds rest) :
    NumberEnds (gap ++ rest) := by
  cases gap with
  | nil => exact ends
  | cons c gap =>
    intro d found
    cases found
    have four : c = ' ' ∨ c = '\n' ∨ c = '\t' ∨ c = '\r' := by
      simpa [isBlank, or_assoc] using blank.cons.1
    rcases four with rfl | rfl | rfl | rfl <;> decide

theorem skip_firstItem (starts : StartsItem s) (stack : List Bracket) :
    skip .firstItem stack s = skip .value stack s := by
  obtain ⟨before, c, rest, rfl, blank, shown, other⟩ := starts
  rw [skip_blank .firstItem rfl blank, skip_blank .value rfl blank]
  have step : skipStep .firstItem stack c rest = skipStep .value stack c rest := by
    simp [skipStep, shown, other]
  rw [skip, skip, step]

theorem skip_firstKey {before : List Char} (blank : Blank before) (stack : List Bracket)
    (rest : List Char) :
    skip .firstKey stack (before ++ '"' :: rest) = skip .nextKey stack (before ++ '"' :: rest) := by
  rw [skip_blank .firstKey rfl blank, skip_blank .nextKey rfl blank]
  rfl

/-- What skipping makes of each symbol of the grammar, in the brackets where it may stand. -/
def Skipped : Symbol → List Char → Prop
  | .value, s => ∀ stack rest, NumberEnds rest → skip .value stack (s ++ rest) = resume stack rest
  | .element, s => ∀ bracket stack rest, NumberEnds rest →
    skip .value (bracket :: stack) (s ++ rest) = skip .separator (bracket :: stack) rest
  | .elements, s => ∀ stack rest,
    skip .value (.list :: stack) (s ++ ']' :: rest) = resume stack rest
  | .member, s => ∀ stack rest, NumberEnds rest →
    skip .nextKey (.object :: stack) (s ++ rest) = skip .separator (.object :: stack) rest
  | .members, s => ∀ stack rest,
    skip .nextKey (.object :: stack) (s ++ '}' :: rest) = resume stack rest

theorem skip_string {body : List Char} (written : StringBody body) (stack : List Bracket)
    (rest : List Char) : skip .value stack ('"' :: (body ++ '"' :: rest)) = resume stack rest := by
  have quote (text : List Char) :
      skip .value stack ('"' :: text) = skip (.text false) stack text := skip_of_go rfl
  rw [quote, skip_stringBody written]
  exact skip_of_afterValue rfl

theorem skip_key {key : List Char} (written : StringBody key) (stack : List Bracket)
    (rest : List Char) :
    skip .nextKey stack ('"' :: (key ++ '"' :: rest)) = skip .colon stack rest := by
  have quote (text : List Char) :
      skip .nextKey stack ('"' :: text) = skip (.text true) stack text := skip_of_go rfl
  rw [quote, skip_stringBody written]
  exact skip_of_go rfl

theorem skipped_of_derives {symbol : Symbol} {s : List Char} (written : Derives symbol s) :
    Skipped symbol s := by
  have openList (stack : List Bracket) (text : List Char) :
      skip .value stack ('[' :: text) = skip .firstItem (.list :: stack) text := skip_of_go rfl
  have openObject (stack : List Bracket) (text : List Char) :
      skip .value stack ('{' :: text) = skip .firstKey (.object :: stack) text := skip_of_go rfl
  -- The induction is on the derivation; the open brackets are those around what is derived.
  induction written with
  | nullWord | trueWord | falseWord =>
    intro stack rest _
    cases stack <;> rfl
  | number written => exact fun stack rest ends => skip_number written ends
  | string written =>
    intro stack rest _
    rw [List.cons_append, List.append_assoc]
    exact skip_string written stack rest
  | emptyList blank =>
    intro stack rest _
    rw [List.cons_append, List.append_assoc, openList, skip_blank .firstItem rfl blank]
    exact skip_of_afterValue rfl
  | list written ih =>
    intro stack rest _
    rw [List.cons_append, List.append_assoc, openList,
      skip_firstItem (written.elements_startsItem.append _)]
    exact ih stack rest
  | emptyObject blank =>
    intro stack rest _
    rw [List.cons_append, List.append_assoc, openObject, skip_blank .firstKey rfl blank]
    exact skip_of_afterValue rfl
  | object written ih =>
    intro stack rest _
    obtain ⟨before, key, rfl, blank⟩ := written.members_start
    have skipped := ih stack rest
    rw [List.append_assoc, List.cons_append] at skipped
    rw [List.cons_append, List.append_assoc, List.append_assoc, List.cons_append, openObject,
      skip_firstKey blank]
    exact skipped
  | element start written stop ih =>
    intro bracket stack rest ends
    rw [List.append_assoc, List.append_assoc, skip_blank .value rfl start,
      ih _ _ (numberEnds_blank stop ends)]
    exact skip_blank .separator rfl stop _ _
  | lastElement last ih =>
    intro stack rest
    rw [ih _ _ _ (numberEnds_mark (by simp) _)]
    exact skip_of_afterValue rfl
  | elements first others item items =>
    intro stack rest
    have next (text : List Char) :
        skip .separator (.list :: stack) (',' :: text) = skip .value (.list :: stack) text :=
      skip_of_go rfl
    rw [List.append_assoc, List.cons_append, item _ _ _ (numberEnds_mark (by simp) _), next, items]
  | member start named stop written ih =>
    intro stack rest ends
    have colon (text : List Char) :
        skip .colon (.object :: stack) (':' :: text) = skip .value (.object :: stack) text :=
      skip_of_go rfl
    simp only [List.append_assoc, List.cons_append]
    rw [skip_blank .nextKey rfl start, skip_key named, skip_blank .colon rfl stop, colon,
      ih _ _ _ ends]
  | lastMember last ih =>
    intro stack rest
    rw [ih _ _ (numberEnds_mark (by simp) _)]
    exact skip_of_afterValue rfl
  | members first others member members =>
    intro stack rest
    have next (text : List Char) :
        skip .separator (.object :: stack) (',' :: text) = skip .nextKey (.object :: stack) text :=
      skip_of_go rfl
    rw [List.append_assoc, List.cons_append, member _ _ (numberEnds_mark (by simp) _), next,
      members]

/-- One value is skipped, with the blanks before it, and what follows is left as it is. -/
theorem skipValue_of_derives {gap value rest : List Char} (blank : Blank gap)
    (written : Derives .value value) (ends : NumberEnds rest) :
    skipValue (gap ++ (value ++ rest)) = .ok rest := by
  rw [skipValue, skip_blank .value rfl blank]
  exact skipped_of_derives written [] rest ends

end DiskImage.Json
