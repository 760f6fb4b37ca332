import DiskImage.CommandLine.Arguments
import DiskImage.Except

/-! What a command line gives, apart from how it is scanned: the texts that its arguments give in turn, and
what it is to have judged them. -/
namespace DiskImage.CommandLine

/-- It is no option: it does not start with a dash, or is nothing else. -/
def Plain (argument : String) : Prop := ∀ c rest, argument.toList ≠ '-' :: c :: rest

def spelled (name : String) : Option String → String
  | none => "--" ++ name
  | some text => "--" ++ name ++ "=" ++ text

/-- The arguments behind the name of a command, and the texts that they give in turn. -/
inductive Gives (command : Subcommand) : List String → List (Key × String) → Prop
  | done : Gives command [] []
  | flag {name : String} {key : Key} {arguments : List String} {given : List (Key × String)}
    (named : (name, key) ∈ command.keys) (flag : key.isFlag = true)
    (rest : Gives command arguments given) :
    Gives command (spelled name none :: arguments) ((key, name) :: given)
  | attached {name text : String} {key : Key} {arguments : List String} {given : List (Key × String)}
    (named : (name, key) ∈ command.keys) (valued : key.isFlag = false)
    (rest : Gives command arguments given) :
    Gives command (spelled name (some text) :: arguments) ((key, text) :: given)
  | separate {name text : String} {key : Key} {arguments : List String} {given : List (Key × String)}
    (named : (name, key) ∈ command.keys) (valued : key.isFlag = false) (plain : Plain text)
    (rest : Gives command arguments given) :
    Gives command (spelled name none :: text :: arguments) ((key, text) :: given)
  | positional {text : String} {arguments : List String} {given : List (Key × String)}
    (plain : Plain text) (rest : Gives command arguments given) :
    Gives command (text :: arguments) ((.positional, text) :: given)
  | trailing (texts : List String) :
    Gives command ("--" :: texts) (texts.map fun text => (.positional, text))

/-- The judged values of what was given, the latest first. No key is given twice. -/
inductive Took : List (Key × String) → List (Key × Value) → Prop
  | nothing : Took [] []
  | give {given : List (Key × String)} {values : List (Key × Value)} {key : Key} {text : String}
    {value : Value} (took : Took given values) (fresh : ∀ other, (key, other) ∉ values)
    (judged : key.judge text = .ok value) : Took (given ++ [(key, text)]) ((key, value) :: values)

theorem mem_of_lookup {α β : Type} [BEq α] [LawfulBEq α] {entries : List (α × β)} {a : α} {b : β}
    (found : entries.lookup a = some b) : (a, b) ∈ entries := by
  obtain ⟨front, back, rfl, -⟩ := List.lookup_eq_some_iff.mp found
  simp

section Lookup

variable {given : List (Key × String)} {values : List (Key × Value)} {key : Key} {value : Value}

namespace Took

theorem lookup_of_mem (took : Took given values) {text : String} (member : (key, text) ∈ given) :
    ∃ value, values.lookup key = some value ∧ key.judge text = .ok value := by
  induction took with
  | nothing => cases member
  | @give given values key' text' value' took fresh judged ih =>
    rcases List.mem_append.mp member with earlier | latest
    · obtain ⟨value, found, judged⟩ := ih earlier
      refine ⟨value, ?_, judged⟩
      have apart : key ≠ key' := by
        rintro rfl
        exact fresh value (mem_of_lookup found)
      rw [List.lookup_cons, beq_false_of_ne apart, found]
    · cases List.mem_singleton.mp latest
      exact ⟨value', List.lookup_cons_self, judged⟩

theorem text_of_mem (took : Took given values) (member : (key, value) ∈ values) :
    ∃ text, (key, text) ∈ given ∧ key.judge text = .ok value := by
  induction took with
  | nothing => cases member
  | @give given values key' text' value' took fresh judged ih =>
    rcases List.mem_cons.mp member with latest | earlier
    · cases latest
      exact ⟨text', by simp, judged⟩
    · obtain ⟨text, member, judged⟩ := ih earlier
      exact ⟨text, List.mem_append_left _ member, judged⟩

end Took

structure Clean (given : List (Key × String)) : Prop where
  once : (given.map Prod.fst).Nodup
  judged : ∀ entry ∈ given, ∃ value, entry.1.judge entry.2 = .ok value

namespace Clean

theorem front {later : List (Key × String)} (clean : Clean (given ++ later)) : Clean given := by
  constructor
  · have once := clean.once
    rw [List.map_append] at once
    exact (List.nodup_append.mp once).1
  · exact fun entry member => clean.judged entry (List.mem_append_left _ member)

theorem concat_iff {text : String} : Clean (given ++ [(key, text)]) ↔
    Clean given ∧ (∀ other, (key, other) ∉ given) ∧ ∃ value, key.judge text = .ok value := by
  constructor
  · intro clean
    refine ⟨clean.front, ?_, clean.judged (key, text) (by simp)⟩
    intro other member
    have once := clean.once
    rw [List.map_append] at once
    exact (List.nodup_append.mp once).2.2 key (List.mem_map_of_mem member) key (by simp) rfl
  · rintro ⟨clean, fresh, judged⟩
    constructor
    · rw [List.map_append]
      refine List.nodup_append.mpr ⟨clean.once, by simp, ?_⟩
      rintro _ earlier _ latest rfl
      obtain ⟨entry, member, same⟩ := List.mem_map.mp earlier
      obtain rfl : entry.1 = key := same.trans (List.mem_singleton.mp latest)
      exact fresh entry.2 member
    · intro entry member
      rcases List.mem_append.mp member with earlier | latest
      · exact clean.judged entry earlier
      · cases List.mem_singleton.mp latest
        exact judged

end Clean

theorem Took.clean (took : Took given values) : Clean given := by
  induction took with
  | nothing => exact ⟨List.nodup_nil, by simp⟩
  | give took fresh judged ih =>
    refine Clean.concat_iff.mpr ⟨ih, fun other member => ?_, _, judged⟩
    obtain ⟨value, found, -⟩ := took.lookup_of_mem member
    exact fresh value (mem_of_lookup found)

end Lookup

section Spelled

def attachment : Option String → List Char
  | none => []
  | some text => '=' :: text.toList

theorem toList_spelled (name : String) (attached : Option String) :
    (spelled name attached).toList = '-' :: '-' :: (name.toList ++ attachment attached) := by
  cases attached <;> simp [spelled, attachment]

theorem splitEquals_attachment {name : String} (bare : '=' ∉ name.toList) (attached : Option String) :
    Scan.splitEquals (name.toList ++ attachment attached) = (name, attached) := by
  have front : ∀ c ∈ name.toList, decide (c ≠ '=') = true := by
    intro c member
    exact decide_eq_true fun same => bare (same ▸ member)
  rw [Scan.splitEquals, List.takeWhile_append_of_pos front, List.dropWhile_append_of_pos front]
  cases attached <;> simp [attachment]

theorem exists_attachment (text : List Char) : ∃ (name : String) (attached : Option String),
    '=' ∉ name.toList ∧ text = name.toList ++ attachment attached := by
  induction text with
  | nil => exact ⟨"", none, by simp, rfl⟩
  | cons c rest ih =>
    by_cases mark : c = '='
    · exact ⟨"", some (String.ofList rest), by simp, by simp [mark, attachment]⟩
    · obtain ⟨name, attached, bare, rfl⟩ := ih
      refine ⟨String.ofList (c :: name.toList), attached, ?_, by simp⟩
      rw [String.toList_ofList, List.mem_cons, not_or]
      exact ⟨Ne.symm mark, bare⟩

theorem argument_cases (argument : String) :
    Plain argument ∨ argument = "--" ∨
    (∃ name attached, '=' ∉ name.toList ∧ name.toList ++ attachment attached ≠ [] ∧
      argument = spelled name attached) ∨
    ∃ first rest, first ≠ '-' ∧ argument.toList = '-' :: first :: rest := by
  by_cases plain : ∃ first rest, argument.toList = '-' :: first :: rest
  · obtain ⟨first, rest, dashed⟩ := plain
    by_cases double : first = '-'
    · subst double
      by_cases nothing : rest = []
      · exact .inr (.inl (String.toList_injective (by rw [dashed, nothing]; rfl)))
      · obtain ⟨name, attached, bare, rfl⟩ := exists_attachment rest
        refine .inr (.inr (.inl ⟨name, attached, bare, nothing, String.toList_injective ?_⟩))
        rw [dashed, toList_spelled]
    · exact .inr (.inr (.inr ⟨first, rest, double, dashed⟩))
  · exact .inl fun first rest dashed => plain ⟨first, rest, dashed⟩

end Spelled

end DiskImage.CommandLine
