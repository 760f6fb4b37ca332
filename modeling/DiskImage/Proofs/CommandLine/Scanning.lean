import DiskImage.Proofs.CommandLine.Grammar

/-! The scan of a command line against the grammar. It gets to its end exactly on the lines with a reading of
which each text can be judged and no key comes twice, and then holds the judged values of every reading. -/
namespace DiskImage.CommandLine

section Next

variable {scan : Scan} {command : Subcommand}

theorem next_ending (before : scan.trailing = false) :
    scan.next command "--" = .ok { scan with trailing := true } := by
  rw [Scan.next, before]
  rfl

theorem next_spelled (before : scan.trailing = false) {name : String} (bare : '=' ∉ name.toList)
    {attached : Option String} (more : name.toList ++ attachment attached ≠ []) :
    scan.next command (spelled name attached) = scan.option command name attached := by
  have split := splitEquals_attachment bare attached
  rw [Scan.next, before, if_neg Bool.false_ne_true, toList_spelled]
  cases text : name.toList ++ attachment attached with
  | nil => exact absurd text more
  | cons c rest =>
    rw [text] at split
    simp only [split]

theorem next_letters (before : scan.trailing = false) {argument : String} {first : Char}
    {rest : List Char} (single : first ≠ '-') (dashed : argument.toList = '-' :: first :: rest)
    (s : Scan) : scan.next command argument ≠ .ok s := by
  intro taken
  rw [Scan.next, before, if_neg Bool.false_ne_true, dashed] at taken
  split at taken
  · next ends => cases ends; exact single rfl
  · next ends => cases ends; exact single rfl
  · unfold Scan.letters at taken
    split at taken
    · obtain ⟨s', -, help⟩ := bind_eq_ok.mp taken
      cases help
    · cases taken
  · next _ _ other => exact other _ _ rfl

theorem next_value (before : scan.trailing = false) {argument : String} (plain : Plain argument)
    {key : Key} (waits : scan.unjudged = some (key, none)) :
    scan.next command argument = .ok { scan with unjudged := some (key, some argument) } := by
  rw [Scan.next, before, if_neg Bool.false_ne_true]
  split
  · next dashed => exact absurd dashed (plain _ _)
  · next dashed => exact absurd dashed (plain _ _)
  · next dashed => exact absurd dashed (plain _ _)
  · rw [waits]

theorem next_positional (before : scan.trailing = false) {argument : String} (plain : Plain argument)
    (ready : ∀ key, scan.unjudged ≠ some (key, none)) :
    scan.next command argument = scan.positional argument := by
  rw [Scan.next, before, if_neg Bool.false_ne_true]
  split
  · next dashed => exact absurd dashed (plain _ _)
  · next dashed => exact absurd dashed (plain _ _)
  · next dashed => exact absurd dashed (plain _ _)
  · split
    · next waits => exact absurd waits (ready _)
    · rfl

theorem next_trailing (late : scan.trailing = true) (argument : String) :
    scan.next command argument = scan.positional argument := by
  rw [Scan.next, if_pos late]

end Next

/-- The scan has read what was given, and no option waits for its value. The latest argument may not be
judged yet. -/
inductive Scan.HasRead (scan : Scan) : List (Key × String) → Prop
  | judged {given : List (Key × String)} (took : Took given scan.given)
    (settled : scan.unjudged = none)
    (seen : scan.positionalSeen = true → ∃ text, (.positional, text) ∈ given) : HasRead scan given
  | unjudged {given : List (Key × String)} {key : Key} {text : String} (took : Took given scan.given)
    (waits : scan.unjudged = some (key, some text))
    (seen : scan.positionalSeen = true → ∃ text', (.positional, text') ∈ given ++ [(key, text)]) :
    HasRead scan (given ++ [(key, text)])

section Steps

variable {scan s : Scan} {command : Subcommand} {before : List (Key × String)} {key : Key}
  {text : String}

theorem not_has_iff : scan.has key = false ↔ ∀ value, (key, value) ∉ scan.given := by
  rw [Scan.has, List.any_eq_false]
  constructor
  · intro fresh value member
    exact absurd (fresh _ member) (by simp)
  · intro fresh entry member
    rw [decide_eq_true_eq]
    rintro rfl
    exact fresh _ member

theorem give_eq_ok : scan.give key text = .ok s ↔ (∀ value, (key, value) ∉ scan.given) ∧
    ∃ value, key.judge text = .ok value ∧ { scan with given := (key, value) :: scan.given } = s := by
  rw [← not_has_iff, ← map_eq_ok]
  unfold Scan.give
  cases scan.has key <;> simp

theorem took_of_give (given : scan.give key text = .ok s) (took : Took before scan.given) :
    Took (before ++ [(key, text)]) s.given ∧ s.unjudged = scan.unjudged ∧
      s.trailing = scan.trailing ∧ s.positionalSeen = scan.positionalSeen := by
  obtain ⟨fresh, value, judged, rfl⟩ := give_eq_ok.mp given
  exact ⟨took.give fresh judged, rfl, rfl, rfl⟩

theorem exists_give (took : Took before scan.given) (clean : Clean (before ++ [(key, text)])) :
    ∃ s, scan.give key text = .ok s := by
  obtain ⟨-, fresh, value, judged⟩ := Clean.concat_iff.mp clean
  refine ⟨_, give_eq_ok.mpr ⟨fun other member => ?_, value, judged, rfl⟩⟩
  obtain ⟨text', given, -⟩ := took.text_of_mem member
  exact fresh text' given

namespace Scan.HasRead

theorem seen (read : scan.HasRead before) (seen : scan.positionalSeen = true) :
    ∃ text, (.positional, text) ∈ before := by
  cases read with
  | judged _ _ known | unjudged _ _ known => exact known seen

theorem settle (read : scan.HasRead before) (settled : scan.settle = .ok s) :
    Took before s.given ∧ s.unjudged = none ∧ s.trailing = scan.trailing ∧
      s.positionalSeen = scan.positionalSeen := by
  unfold Scan.settle at settled
  cases read with
  | judged took none =>
    rw [none] at settled
    cases settled
    exact ⟨took, none, rfl, rfl⟩
  | unjudged took waits =>
    rw [waits] at settled
    exact took_of_give settled took

theorem give (read : scan.HasRead before)
    (given : (scan.settle >>= fun settled => settled.give key text) = .ok s) :
    s.HasRead (before ++ [(key, text)]) ∧ s.trailing = scan.trailing := by
  obtain ⟨settled, settles, gives⟩ := bind_eq_ok.mp given
  obtain ⟨took, none, same, seen⟩ := read.settle settles
  obtain ⟨took', kept, same', seen'⟩ := took_of_give gives took
  refine ⟨.judged took' (kept.trans none) fun now => ?_, same'.trans same⟩
  obtain ⟨text, member⟩ := read.seen (seen.symm.trans (seen'.symm.trans now))
  exact ⟨text, List.mem_append_left _ member⟩

theorem positional (read : scan.HasRead before) (taken : scan.positional text = .ok s) :
    s.HasRead (before ++ [(.positional, text)]) ∧ s.trailing = scan.trailing := by
  unfold Scan.positional at taken
  split at taken
  · cases taken
  · obtain ⟨settled, settles, rfl⟩ := map_eq_ok.mp taken
    obtain ⟨took, -, same, -⟩ := read.settle settles
    exact ⟨.unjudged took rfl fun _ => ⟨text, by simp⟩, same⟩

theorem same (read : scan.HasRead before) (given : s.given = scan.given)
    (unjudged : s.unjudged = scan.unjudged) (seen : s.positionalSeen = scan.positionalSeen) :
    s.HasRead before := by
  cases read with
  | judged took settled known => exact .judged (given ▸ took) (unjudged.trans settled) (seen ▸ known)
  | unjudged took waits known => exact .unjudged (given ▸ took) (unjudged.trans waits) (seen ▸ known)

theorem ready (read : scan.HasRead before) (key : Key) : scan.unjudged ≠ some (key, none) := by
  cases read with
  | judged took none => simp [none]
  | unjudged took waits => simp [waits]

theorem exists_settle (read : scan.HasRead before) (clean : Clean before) :
    ∃ s, scan.settle = .ok s := by
  cases read with
  | judged took none => exact ⟨scan, by rw [Scan.settle, none]⟩
  | unjudged took waits =>
    simp only [Scan.settle, waits]
    exact exists_give took clean

theorem exists_settle_give (read : scan.HasRead before) (clean : Clean (before ++ [(key, text)])) :
    ∃ s, (scan.settle >>= fun settled => settled.give key text) = .ok s := by
  obtain ⟨settled, settles⟩ := read.exists_settle clean.front
  obtain ⟨s, gives⟩ := exists_give (read.settle settles).1 clean
  exact ⟨s, bind_eq_ok.mpr ⟨settled, settles, gives⟩⟩

theorem exists_positional (read : scan.HasRead before)
    (clean : Clean (before ++ [(.positional, text)])) : ∃ s, scan.positional text = .ok s := by
  have unseen : ¬ scan.positionalSeen = true := by
    intro now
    obtain ⟨other, member⟩ := read.seen now
    exact (Clean.concat_iff.mp clean).2.1 other member
  obtain ⟨settled, settles⟩ := read.exists_settle clean.front
  exact ⟨_, by rw [Scan.positional, if_neg unseen, settles]; rfl⟩

end Scan.HasRead

/-- What was given before an option that waits for its value. -/
structure Scan.Awaits (scan : Scan) (key : Key) (before : List (Key × String)) : Prop where
  took : Took before scan.given
  waits : scan.unjudged = some (key, none)
  seen : scan.positionalSeen = true → ∃ text, (.positional, text) ∈ before

theorem Scan.HasRead.awaits (read : scan.HasRead before) (settled : scan.settle = .ok s) :
    { s with unjudged := some (key, none) }.Awaits key before ∧ s.trailing = scan.trailing := by
  obtain ⟨took, -, same, seen⟩ := read.settle settled
  exact ⟨⟨took, rfl, fun now => read.seen (seen.symm.trans now)⟩, same⟩

theorem Scan.Awaits.exists_next (awaits : scan.Awaits key before) (early : scan.trailing = false)
    (plain : Plain text) : ∃ s, scan.next command text = .ok s :=
  ⟨_, next_value early plain awaits.waits⟩

theorem Scan.Awaits.value (awaits : scan.Awaits key before) (early : scan.trailing = false)
    (plain : Plain text) (taken : scan.next command text = .ok s) :
    s.HasRead (before ++ [(key, text)]) ∧ s.trailing = false := by
  obtain ⟨took, waits, seen⟩ := awaits
  rw [next_value early plain waits] at taken
  cases taken
  refine ⟨.unjudged took rfl fun now => ?_, early⟩
  obtain ⟨text', member⟩ := seen now
  exact ⟨text', List.mem_append_left _ member⟩

section Waits

variable (waits : scan.unjudged = some (key, none))
include waits

theorem settle_of_waits : scan.settle ≠ .ok s := by
  simp [Scan.settle, waits]

theorem positional_of_waits : scan.positional text ≠ .ok s := by
  intro taken
  unfold Scan.positional at taken
  split at taken
  · cases taken
  · obtain ⟨settled, settles, -⟩ := map_eq_ok.mp taken
    exact settle_of_waits waits settles

end Waits

theorem known_of_named {name : String} (named : (name, key) ∈ command.keys) :
    command.keys.lookup name = some key ∧ name ≠ "help" ∧ '=' ∉ name.toList ∧ name.toList ≠ [] := by
  have all : ∀ entry ∈ command.keys, command.keys.lookup entry.1 = some entry.2 ∧
      entry.1 ≠ "help" ∧ '=' ∉ entry.1.toList ∧ entry.1.toList ≠ [] := by
    cases command <;> decide
  exact all _ named

section Named

variable {name : String} (early : scan.trailing = false) (named : (name, key) ∈ command.keys)
include early named

theorem next_flag (flag : key.isFlag = true) : scan.next command (spelled name none) =
    scan.settle >>= fun settled => settled.give key name := by
  obtain ⟨found, other, bare, more⟩ := known_of_named named
  rw [next_spelled early bare (by simp [more])]
  simp only [Scan.option, if_neg other, found, if_pos flag]

theorem next_attached (valued : key.isFlag = false) (text : String) :
    scan.next command (spelled name (some text)) =
      scan.settle >>= fun settled => settled.give key text := by
  obtain ⟨found, other, bare, more⟩ := known_of_named named
  rw [next_spelled early bare (by simp [more])]
  simp only [Scan.option, if_neg other, found, valued, if_neg Bool.false_ne_true]

theorem next_separate (valued : key.isFlag = false) : scan.next command (spelled name none) =
    scan.settle.map fun settled => { settled with unjudged := some (key, none) } := by
  obtain ⟨found, other, bare, more⟩ := known_of_named named
  rw [next_spelled early bare (by simp [more])]
  simp only [Scan.option, if_neg other, found, valued, if_neg Bool.false_ne_true]

end Named

inductive Opted (scan : Scan) (command : Subcommand) (name : String) : Option String → Scan → Prop
  | flag {key : Key} {s : Scan} (named : (name, key) ∈ command.keys) (flag : key.isFlag = true)
    (given : (scan.settle >>= fun settled => settled.give key name) = .ok s) :
    Opted scan command name none s
  | attached {key : Key} {text : String} {s : Scan} (named : (name, key) ∈ command.keys)
    (valued : key.isFlag = false)
    (given : (scan.settle >>= fun settled => settled.give key text) = .ok s) :
    Opted scan command name (some text) s
  | separate {key : Key} {s : Scan} (named : (name, key) ∈ command.keys) (valued : key.isFlag = false)
    (settled : scan.settle = .ok s) :
    Opted scan command name none { s with unjudged := some (key, none) }

theorem opted_of_option {name : String} {attached : Option String}
    (taken : scan.option command name attached = .ok s) : Opted scan command name attached s := by
  unfold Scan.option at taken
  split at taken
  · cases attached with
    | some text => cases taken
    | none =>
      obtain ⟨settled, -, help⟩ := bind_eq_ok.mp taken
      cases help
  split at taken
  · cases taken
  next key found =>
  have named : (name, key) ∈ command.keys := mem_of_lookup found
  cases flag : key.isFlag with
  | true =>
    rw [if_pos flag] at taken
    cases attached with
    | some text => cases taken
    | none => exact .flag named flag taken
  | false =>
    rw [flag, if_neg Bool.false_ne_true] at taken
    cases attached with
    | some text => exact .attached named flag taken
    | none =>
      obtain ⟨settled, settles, rfl⟩ := map_eq_ok.mp taken
      exact .separate named flag settles

theorem Scan.Awaits.all (awaits : scan.Awaits key before) (early : scan.trailing = false)
    {arguments : List String} (accepted : scan.all command arguments = .ok s) :
    ∃ text rest, arguments = text :: rest ∧ Plain text ∧ ∃ s' : Scan,
      s'.HasRead (before ++ [(key, text)]) ∧ s'.trailing = false ∧ s'.all command rest = .ok s := by
  have waits := awaits.waits
  cases arguments with
  | nil => exact absurd accepted (settle_of_waits waits)
  | cons argument rest =>
    obtain ⟨s', taken, later⟩ := bind_eq_ok.mp accepted
    obtain plain | rfl | ⟨name, attached, bare, more, rfl⟩ | ⟨first, text, single, dashed⟩ :=
      argument_cases argument
    · obtain ⟨read', early'⟩ := awaits.value early plain taken
      exact ⟨argument, rest, rfl, plain, s', read', early', later⟩
    · rw [next_ending early] at taken
      cases taken
      cases rest with
      | nil => exact absurd later (settle_of_waits waits)
      | cons argument rest =>
        obtain ⟨s', taken, -⟩ := bind_eq_ok.mp later
        rw [next_trailing rfl] at taken
        exact absurd taken (positional_of_waits waits)
    · rw [next_spelled early bare more] at taken
      cases opted_of_option taken with
      | flag _ _ given | attached _ _ given =>
        obtain ⟨settled, settles, -⟩ := bind_eq_ok.mp given
        exact absurd settles (settle_of_waits waits)
      | separate _ _ settled => exact absurd settled (settle_of_waits waits)
    · exact absurd taken (next_letters early single dashed s')

theorem exists_gives {arguments : List String} (accepted : scan.all command arguments = .ok s)
    (read : scan.HasRead before) (early : scan.trailing = false) :
    ∃ given, Gives command arguments given := by
  -- On the length, since an option and its value are taken together.
  induction size : arguments.length using Nat.strongRecOn generalizing scan before arguments with
  | ind n ih =>
    cases arguments with
    | nil => exact ⟨[], .done⟩
    | cons argument rest =>
      subst size
      obtain ⟨s', taken, later⟩ := bind_eq_ok.mp accepted
      obtain plain | rfl | ⟨name, attached, bare, more, rfl⟩ | ⟨first, text, single, dashed⟩ :=
        argument_cases argument
      · rw [next_positional early plain read.ready] at taken
        obtain ⟨read', same⟩ := read.positional taken
        obtain ⟨given, gives⟩ := ih _ (by simp) later read' (same.trans early) rfl
        exact ⟨_, .positional plain gives⟩
      · exact ⟨_, .trailing rest⟩
      · rw [next_spelled early bare more] at taken
        cases opted_of_option taken with
        | flag named flag gave =>
          obtain ⟨read', same⟩ := read.give gave
          obtain ⟨given, gives⟩ := ih _ (by simp) later read' (same.trans early) rfl
          exact ⟨_, .flag named flag gives⟩
        | attached named valued gave =>
          obtain ⟨read', same⟩ := read.give gave
          obtain ⟨given, gives⟩ := ih _ (by simp) later read' (same.trans early) rfl
          exact ⟨_, .attached named valued gives⟩
        | separate named valued settled =>
          obtain ⟨awaits, same⟩ := read.awaits settled
          obtain ⟨text, rest, rfl, plain, s', read', early', later⟩ :=
            awaits.all (same.trans early) later
          obtain ⟨given, gives⟩ := ih _ (by grind) later read' early' rfl
          exact ⟨_, .separate named valued plain gives⟩
      · exact absurd taken (next_letters early single dashed s')

theorem took_of_trailing {texts : List String} (accepted : scan.all command texts = .ok s)
    (read : scan.HasRead before) (late : scan.trailing = true) :
    Took (before ++ texts.map fun text => (.positional, text)) s.given := by
  induction texts generalizing scan before with
  | nil =>
    rw [List.map_nil, List.append_nil]
    exact (read.settle accepted).1
  | cons text rest ih =>
    obtain ⟨s', taken, later⟩ := bind_eq_ok.mp accepted
    rw [next_trailing late] at taken
    obtain ⟨read', same⟩ := read.positional taken
    have took := ih later read' (same.trans late)
    rwa [List.append_assoc] at took

theorem took_of_gives {arguments : List String} {given : List (Key × String)}
    (gives : Gives command arguments given) (accepted : scan.all command arguments = .ok s)
    (read : scan.HasRead before) (early : scan.trailing = false) :
    Took (before ++ given) s.given := by
  -- On the reading; what it gives next moves to the end of what the scan has read before.
  induction gives generalizing scan before with
  | done =>
    rw [List.append_nil]
    exact (read.settle accepted).1
  | flag named flag rest ih =>
    obtain ⟨s', taken, later⟩ := bind_eq_ok.mp accepted
    rw [next_flag early named flag] at taken
    obtain ⟨read', same⟩ := read.give taken
    have took := ih later read' (same.trans early)
    rwa [List.append_assoc] at took
  | attached named valued rest ih =>
    obtain ⟨s', taken, later⟩ := bind_eq_ok.mp accepted
    rw [next_attached early named valued] at taken
    obtain ⟨read', same⟩ := read.give taken
    have took := ih later read' (same.trans early)
    rwa [List.append_assoc] at took
  | separate named valued plain rest ih =>
    obtain ⟨s', taken, later⟩ := bind_eq_ok.mp accepted
    rw [next_separate early named valued] at taken
    obtain ⟨settled, settles, rfl⟩ := map_eq_ok.mp taken
    obtain ⟨awaits, same⟩ := read.awaits settles
    obtain ⟨s', taken, later⟩ := bind_eq_ok.mp later
    obtain ⟨read', early'⟩ := awaits.value (same.trans early) plain taken
    have took := ih later read' early'
    rwa [List.append_assoc] at took
  | positional plain rest ih =>
    obtain ⟨s', taken, later⟩ := bind_eq_ok.mp accepted
    rw [next_positional early plain read.ready] at taken
    obtain ⟨read', same⟩ := read.positional taken
    have took := ih later read' (same.trans early)
    rwa [List.append_assoc] at took
  | trailing texts =>
    obtain ⟨s', taken, later⟩ := bind_eq_ok.mp accepted
    rw [next_ending early] at taken
    cases taken
    exact took_of_trailing later (read.same rfl rfl rfl) rfl

theorem exists_all_of_trailing {texts : List String} (read : scan.HasRead before)
    (late : scan.trailing = true)
    (clean : Clean (before ++ texts.map fun text => (.positional, text))) :
    ∃ s, scan.all command texts = .ok s := by
  induction texts generalizing scan before with
  | nil =>
    rw [List.map_nil, List.append_nil] at clean
    exact read.exists_settle clean
  | cons text rest ih =>
    rw [List.map_cons, List.append_cons] at clean
    obtain ⟨s', taken⟩ := read.exists_positional clean.front
    obtain ⟨read', same⟩ := read.positional taken
    obtain ⟨s, later⟩ := ih read' (same.trans late) clean
    exact ⟨s, bind_eq_ok.mpr ⟨s', (next_trailing late text).trans taken, later⟩⟩

/-- The scan accepts every line that has a reading of which each text can be judged and no key comes
twice. -/
theorem exists_all_of_gives {arguments : List String} {given : List (Key × String)}
    (gives : Gives command arguments given) (read : scan.HasRead before)
    (early : scan.trailing = false) (clean : Clean (before ++ given)) :
    ∃ s, scan.all command arguments = .ok s := by
  induction gives generalizing scan before with
  | done =>
    rw [List.append_nil] at clean
    exact read.exists_settle clean
  | flag named flag rest ih =>
    rw [List.append_cons] at clean
    obtain ⟨s', taken⟩ := read.exists_settle_give clean.front
    obtain ⟨read', same⟩ := read.give taken
    obtain ⟨s, later⟩ := ih read' (same.trans early) clean
    exact ⟨s, bind_eq_ok.mpr ⟨s', (next_flag early named flag).trans taken, later⟩⟩
  | attached named valued rest ih =>
    rw [List.append_cons] at clean
    obtain ⟨s', taken⟩ := read.exists_settle_give clean.front
    obtain ⟨read', same⟩ := read.give taken
    obtain ⟨s, later⟩ := ih read' (same.trans early) clean
    exact ⟨s, bind_eq_ok.mpr ⟨s', (next_attached early named valued _).trans taken, later⟩⟩
  | separate named valued plain rest ih =>
    rw [List.append_cons] at clean
    obtain ⟨settled, settles⟩ := read.exists_settle clean.front.front
    obtain ⟨awaits, same⟩ := read.awaits settles
    have first := (next_separate early named valued).trans (map_eq_ok.mpr ⟨settled, settles, rfl⟩)
    obtain ⟨s', second⟩ := awaits.exists_next (same.trans early) plain
    obtain ⟨read', early'⟩ := awaits.value (same.trans early) plain second
    obtain ⟨s, later⟩ := ih read' early' clean
    exact ⟨s, bind_eq_ok.mpr ⟨_, first, bind_eq_ok.mpr ⟨s', second, later⟩⟩⟩
  | positional plain rest ih =>
    rw [List.append_cons] at clean
    obtain ⟨s', taken⟩ := read.exists_positional clean.front
    obtain ⟨read', same⟩ := read.positional taken
    obtain ⟨s, later⟩ := ih read' (same.trans early) clean
    exact ⟨s, bind_eq_ok.mpr ⟨s', (next_positional early plain read.ready).trans taken, later⟩⟩
  | trailing texts =>
    have read' : { scan with trailing := true }.HasRead before := read.same rfl rfl rfl
    obtain ⟨s, later⟩ := exists_all_of_trailing read' rfl clean
    exact ⟨s, bind_eq_ok.mpr ⟨_, next_ending early, later⟩⟩

end Steps

end DiskImage.CommandLine
