import GuestRunner.Guest.TrapReason
import GuestRunner.Proofs.Text.Casing
import Mathlib.Data.List.Find

/-!
# What a trap is called

The reason of a trap is read off the words in its message. None of them has a letter that could come
from outside ASCII, so only the case of ASCII letters is lost in the lower case of a message, and a
message says a word wherever it stands. More text around a message can only make it say more.
-/

set_option autoImplicit false

namespace GuestRunner.TrapReason

open Text

def rank : TrapReason → Nat
  | .trap => 0
  | .memoryLimit => 1
  | .outOfFuel => 2
  | .invalidExitStatus => 3

def Alike (text text' : String) : Prop :=
  text.toList.map Char.toLower = text'.toList.map Char.toLower

def Says (message word : String) : Prop :=
  ∃ before said after, message = before ++ said ++ after ∧ Alike said word

variable {message word : String} {text text' : List Char}

theorem Says.within (h : Says message word) (before after : String) :
    Says (before ++ message ++ after) word := by
  obtain ⟨first, said, last, rfl, ha⟩ := h
  exact ⟨before ++ first, said, last ++ after, by simp only [String.append_assoc], ha⟩

theorem says_iff (hw : word.toList.map Char.toLower = word.toList) :
    Says message word ↔ word.toList <:+: message.toList.map Char.toLower := by
  constructor
  · rintro ⟨before, said, after, rfl, ha⟩
    refine ⟨before.toList.map Char.toLower, after.toList.map Char.toLower, ?_⟩
    rw [← hw, ← ha]
    simp only [String.toList_append, List.map_append]
  · rintro ⟨first, last, h⟩
    obtain ⟨front, after, hm, hfront, -⟩ := List.map_eq_append_iff.mp h.symm
    obtain ⟨before, said, rfl, -, hsaid⟩ := List.map_eq_append_iff.mp hfront
    refine ⟨String.ofList before, String.ofList said, String.ofList after, ?_, ?_⟩
    · apply String.toList_inj.mp
      simp only [hm, String.toList_append, String.toList_ofList]
    · rw [Alike, String.toList_ofList, hsaid, hw]

theorem occurs_iff (word text : List Char) : occurs word text = true ↔ word <:+: text := by
  induction text with
  | nil => simp [occurs]
  | cons c rest ih =>
    rw [occurs, Bool.or_eq_true, List.isPrefixOf_iff_prefix, ih, List.infix_cons_iff]

theorem words_plain : ∀ entry ∈ words, entry.1.map Char.toLower = entry.1 ∧ entry.1 ≠ [] ∧
    (∀ c ∈ entry.1, c.toNat < 0x80 ∧ c ≠ 'k') ∧ entry.1.getLast? ≠ some 'i' := by
  have hword : ∀ entry ∈ words, entry.1.map Char.toLower = entry.1 ∧ entry.1 ≠ [] ∧
      entry.1.getLast? ≠ some 'i' := by
    decide
  have hascii : ∀ entry ∈ words, entry.1.all (fun c => c.toNat < 0x80 ∧ c ≠ 'k') = true := by
    decide
  intro entry he
  obtain ⟨hsmall, hne, hlast⟩ := hword entry he
  refine ⟨hsmall, hne, fun c hc => ?_, hlast⟩
  simpa using List.all_eq_true.mp (hascii entry he) c hc

theorem ofChars_congr
    (h : ∀ entry ∈ words, (occurs entry.1 text = true ↔ occurs entry.1 text' = true)) :
    ofChars text = ofChars text' := by
  have hfind : (words.find? fun entry => occurs entry.1 text) =
      words.find? fun entry => occurs entry.1 text' :=
    List.find?_congr fun entry he => Bool.eq_iff_iff.mpr (h entry he)
  rw [ofChars, ofChars, hfind]

theorem ofMessage_eq (message : String) :
    ofMessage message = ofChars (message.toList.map Char.toLower) := by
  apply ofChars_congr
  intro entry he
  obtain ⟨-, hne, hascii, hlast⟩ := words_plain entry he
  rw [occurs_iff, occurs_iff, Casing.lower, String.toList_ofList]
  exact Casing.infix_lowerAfter ⟨hascii, hlast⟩ hne [] _

/-- The words in the order of their strength. -/
theorem ofMessage_cases (message : String) :
    Says message "invalid exit status" ∧ ofMessage message = .invalidExitStatus ∨
    ¬ Says message "invalid exit status" ∧ Says message "fuel" ∧ ofMessage message = .outOfFuel ∨
    ¬ Says message "invalid exit status" ∧ ¬ Says message "fuel" ∧ Says message "memory" ∧
      ofMessage message = .memoryLimit ∨
    ¬ Says message "invalid exit status" ∧ ¬ Says message "fuel" ∧ ¬ Says message "memory" ∧
      ofMessage message = .trap := by
  have hstatus : occurs "invalid exit status".toList (message.toList.map Char.toLower) = true ↔
      Says message "invalid exit status" := by rw [occurs_iff, says_iff (by decide)]
  have hfuel : occurs "fuel".toList (message.toList.map Char.toLower) = true ↔
      Says message "fuel" := by rw [occurs_iff, says_iff (by decide)]
  have hmemory : occurs "memory".toList (message.toList.map Char.toLower) = true ↔
      Says message "memory" := by rw [occurs_iff, says_iff (by decide)]
  rw [ofMessage_eq, ofChars, words, ← hstatus, ← hfuel, ← hmemory]
  simp only [List.find?_cons, List.find?_nil]
  cases occurs "invalid exit status".toList (message.toList.map Char.toLower)
  · cases occurs "fuel".toList (message.toList.map Char.toLower)
    · cases occurs "memory".toList (message.toList.map Char.toLower) <;> simp
    · simp
  · simp

theorem rank_mono {message' : String} (h : ∀ word, Says message word → Says message' word) :
    (ofMessage message).rank ≤ (ofMessage message').rank := by
  have hstatus := h "invalid exit status"
  have hfuel := h "fuel"
  have hmemory := h "memory"
  rcases ofMessage_cases message with ⟨hs, hr⟩ | ⟨-, hs, hr⟩ | ⟨-, -, hs, hr⟩ | ⟨-, -, -, hr⟩ <;>
    rcases ofMessage_cases message' with h' | h' | h' | h' <;> simp_all [rank]

theorem label_iff (message : String) :
    ((ofMessage message).label = "invalid_exit_status" ↔ Says message "invalid exit status") ∧
    ((ofMessage message).label = "out_of_fuel" ↔
      ¬ Says message "invalid exit status" ∧ Says message "fuel") ∧
    ((ofMessage message).label = "memory_limit" ↔
      ¬ Says message "invalid exit status" ∧ ¬ Says message "fuel" ∧ Says message "memory") ∧
    ((ofMessage message).label = "trap" ↔
      ¬ Says message "invalid exit status" ∧ ¬ Says message "fuel" ∧ ¬ Says message "memory") := by
  rcases ofMessage_cases message with h | h | h | h <;> simp [label, h]

/-- There is no reason just if nothing is said about a trap. Else the reason goes by the words in
the message, in the order of their strength and wherever they stand; the case of ASCII letters does
not matter, and text around the message makes the reason no weaker. -/
theorem classified_by_words :
    (∀ told : Option String, classify told = none ↔ told = none) ∧
    ∀ message : String, ∃ reason, classify (some message) = some reason ∧
      (reason.label = "invalid_exit_status" ↔ Says message "invalid exit status") ∧
      (reason.label = "out_of_fuel" ↔
        ¬ Says message "invalid exit status" ∧ Says message "fuel") ∧
      (reason.label = "memory_limit" ↔
        ¬ Says message "invalid exit status" ∧ ¬ Says message "fuel" ∧ Says message "memory") ∧
      (reason.label = "trap" ↔
        ¬ Says message "invalid exit status" ∧ ¬ Says message "fuel" ∧ ¬ Says message "memory") ∧
      (∀ message', Alike message' message → classify (some message') = some reason) ∧
      ∀ before after, ∃ reason', classify (some (before ++ message ++ after)) = some reason' ∧
        reason.rank ≤ reason'.rank := by
  refine ⟨fun told => Option.map_eq_none_iff, fun message => ⟨ofMessage message, rfl, ?_⟩⟩
  obtain ⟨hstatus, hfuel, hmemory, htrap⟩ := label_iff message
  refine ⟨hstatus, hfuel, hmemory, htrap, fun message' ha => ?_, fun before after => ?_⟩
  · rw [Alike] at ha
    rw [classify, Option.map_some, ofMessage_eq, ofMessage_eq, ha]
  · exact ⟨_, rfl, rank_mono fun word hs => hs.within before after⟩

/-- A letter that is two in lower case stands before two words, of which the stronger one counts. -/
theorem classified_by_words_shouted :
    Alike "İnstance: Fuel in MEMORY" "İNSTANCE: FUEL in memory" ∧
      classify (some "İnstance: Fuel in MEMORY") = some .outOfFuel := by
  have halike : Alike "İnstance: Fuel in MEMORY" "İNSTANCE: FUEL in memory" := by
    unfold Alike
    decide +kernel
  obtain ⟨reason, hreason, -, -, -, -, hcase, -⟩ :=
    classified_by_words.2 "İNSTANCE: FUEL in memory"
  have hfuel : classify (some "İNSTANCE: FUEL in memory") = some .outOfFuel := by decide +kernel
  refine ⟨halike, ?_⟩
  rw [hcase _ halike, ← hreason, hfuel]

end GuestRunner.TrapReason
