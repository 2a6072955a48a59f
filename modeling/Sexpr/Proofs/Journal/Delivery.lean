import Mathlib.Data.List.Induction
import Sexpr.Journal
import Sexpr.Platform
import Sexpr.Proofs.Journal.Writing

/-!
Delivery of records. Whatever was done to a journal before, it has one handler in place of those
that were configured, or none; it writes to the newest stream, and it takes just what the root
logger passes on. So a record is written once, there and nowhere else, or not at all.
-/

namespace Sexpr.Journal

variable {memory : Nat} {site : Circumstances} {entry : Record}

inductive Act where
  | configure (verbose quiet : Bool) (format : String)
  | reset
  | log (site : Circumstances) (entry : Record)

namespace Act

end Act

def act (journal : Journal) (memory : Nat) : Act → Journal
  | .configure verbose quiet format => (journal.configure memory verbose quiet format).2
  | .reset => journal.reset
  | .log site entry => journal.log site entry

def after (memory : Nat) (history : List Act) : Journal :=
  history.foldl (·.act memory ·) silent

theorem isBelowRoot_iff {logger : String} :
    isBelowRoot logger = true ↔ logger = root ∨ ∃ name, logger = root ++ "." ++ name := by
  rw [isBelowRoot, Bool.or_eq_true, beq_iff_eq, List.isPrefixOf_iff_prefix]
  apply or_congr_right
  constructor
  · rintro ⟨name, hname⟩
    refine ⟨String.ofList name, ?_⟩
    rw [← String.toList_inj, String.toList_append, String.toList_ofList, hname]
  · rintro ⟨name, rfl⟩
    exact ⟨name.toList, (String.toList_append).symm⟩

/-- A record of the root logger or of one below it is at least as severe as the threshold. -/
def Reaches (entry : Record) (threshold : Severity) : Prop :=
  (entry.logger = root ∨ ∃ name, entry.logger = root ++ "." ++ name) ∧
    threshold.rank ≤ entry.severity.rank

theorem reaches_iff {entry : Record} {threshold : Severity} :
    Reaches entry threshold ↔
      isBelowRoot entry.logger = true ∧ threshold.rank ≤ entry.severity.rank :=
  and_congr_left' isBelowRoot_iff.symm

/-- What a journal looks like under the setting in force. The handler that was configured last
writes to the newest stream and has the threshold of the root logger, which has been set. -/
inductive Obeys : Journal → Option (Severity × Layout) → Prop
  | silent (texts : List String) : Obeys ⟨.unset, [.null], texts⟩ none
  | speaking {threshold : Severity} (hset : threshold ≠ .unset) (layout : Layout)
      (older : List String) (newest : String) :
    Obeys ⟨threshold, [.null, .own threshold older.length layout], older ++ [newest]⟩
      (some (threshold, layout))

namespace Obeys

variable {journal : Journal} {setting : Option (Severity × Layout)}

theorem others_eq (h : journal.Obeys setting) : journal.others = [.null] := by
  cases h <;> rfl

/-- A configuration that is in force has one handler in place, any other journal has none. -/
theorem installed : journal.Obeys setting →
    match setting with
    | some (threshold, _) => journal.threshold = threshold ∧
        ∃ handler, journal.installed = [handler] ∧ handler.threshold = threshold
    | none => journal.level = 0 ∧ journal.installed = [] := by
  intro h
  cases h with
  | silent texts => exact ⟨rfl, rfl⟩
  | speaking hset layout older newest => exact ⟨rfl, _, rfl, rfl⟩

theorem install (h : journal.Obeys setting) {threshold : Severity} (hset : threshold ≠ .unset)
    (layout : Layout) : (journal.install threshold layout).Obeys (some (threshold, layout)) := by
  rw [Journal.install, h.others_eq]
  exact .speaking hset layout journal.texts ""

theorem reset (h : journal.Obeys setting) : journal.reset.Obeys none := by
  rw [Journal.reset, h.others_eq]
  exact .silent journal.texts

end Obeys

theorem hand_null (site : Circumstances) (entry : Record) (journal : Journal) :
    journal.hand site entry .null = journal := by
  have htaken : Handler.null.threshold.rank ≤ entry.severity.rank := Nat.zero_le _
  rw [hand, if_pos htaken]
  rfl

theorem hand_own {threshold : Severity} (site : Circumstances) (journal : Journal)
    (htaken : threshold.rank ≤ entry.severity.rank) (layout : Layout) {older : List String}
    {newest : String} (htexts : journal.texts = older ++ [newest]) :
    journal.hand site entry (.own threshold older.length layout) = { journal with
      texts := older ++ [newest ++ (entry.formatted layout site).elim "" (· ++ "\n")] } := by
  obtain ⟨level, handlers, texts⟩ := journal
  obtain rfl : texts = older ++ [newest] := htexts
  rw [hand, Handler.own, if_pos htaken]
  cases hformatted : entry.formatted layout site with
  | none => simp only [hformatted, Option.elim_none, String.append_empty]
  | some text =>
      simp only [hformatted, write, Option.elim_some, List.modify_eq_take_drop, List.take_left,
        List.drop_left, List.modifyHead_cons]

theorem log_of_reaches {journal : Journal} (site : Circumstances)
    (h : Reaches entry journal.effective) :
    journal.log site entry = journal.handlers.foldl (hand site entry) journal := by
  rw [log, if_pos]
  rw [Bool.and_eq_true, decide_eq_true_eq]
  exact reaches_iff.mp h

theorem log_of_not_reaches {journal : Journal} (site : Circumstances)
    (h : ¬Reaches entry journal.effective) : journal.log site entry = journal := by
  rw [log, if_neg]
  rw [Bool.and_eq_true, decide_eq_true_eq]
  exact fun hpassed => h (reaches_iff.mpr hpassed)

theorem effective_of_set {journal : Journal} (hset : journal.threshold ≠ .unset) :
    journal.effective = journal.threshold :=
  if_neg hset

theorem log_unreached {journal : Journal} (site : Circumstances)
    (hset : journal.threshold ≠ .unset) (h : ¬Reaches entry journal.threshold) :
    journal.log site entry = journal := by
  apply log_of_not_reaches site
  rwa [effective_of_set hset]

/-- A record that reaches the threshold in force is one more line of the newest stream. -/
theorem log_speaking {threshold : Severity} (hset : threshold ≠ .unset) (layout : Layout)
    (older : List String) (newest : String) (site : Circumstances) (h : Reaches entry threshold) :
    let handlers : List Handler := [.null, .own threshold older.length layout]
    log ⟨threshold, handlers, older ++ [newest]⟩ site entry = ⟨threshold, handlers,
      older ++ [newest ++ (entry.formatted layout site).elim "" (· ++ "\n")]⟩ := by
  intro handlers
  let journal : Journal := ⟨threshold, handlers, older ++ [newest]⟩
  have heffective : journal.effective = threshold := effective_of_set hset
  have hlog : journal.log site entry = handlers.foldl (hand site entry) journal :=
    log_of_reaches site (by rwa [heffective])
  rw [hlog, List.foldl_cons, List.foldl_cons, List.foldl_nil, hand_null]
  exact hand_own site journal h.2 layout rfl

theorem log_silent (texts : List String) (site : Circumstances) (entry : Record) :
    log ⟨.unset, [.null], texts⟩ site entry = ⟨.unset, [.null], texts⟩ := by
  by_cases h : Reaches entry (effective ⟨.unset, [.null], texts⟩)
  · rw [log_of_reaches site h, List.foldl_cons, List.foldl_nil, hand_null]
  · exact log_of_not_reaches site h

/-- A record changes neither the setting in force nor the number of streams. -/
theorem Obeys.log {journal : Journal} {setting : Option (Severity × Layout)}
    (h : journal.Obeys setting) (site : Circumstances) (entry : Record) :
    (journal.log site entry).Obeys setting ∧
      (journal.log site entry).texts.length = journal.texts.length := by
  cases h with
  | silent texts =>
      rw [log_silent]
      exact ⟨.silent texts, rfl⟩
  | @speaking threshold hset layout older newest =>
      by_cases hreaches : Reaches entry threshold
      · rw [log_speaking hset layout older newest site hreaches]
        refine ⟨.speaking hset layout older _, ?_⟩
        rw [List.length_append, List.length_append, List.length_singleton, List.length_singleton]
      · rw [log_unreached site hset hreaches]
        exact ⟨.speaking hset layout older newest, rfl⟩

end Sexpr.Journal
