import Sexpr.Proofs.Token.Lexing
import Sexpr.Token.Scanner

/-!
What a reader gets. A reader asks for one token at a time while scanning takes all at once; asked
again and again, the reader gets the tokens of the scan one after the other, and then the end or the
fault where the scan stopped.
-/

namespace Sexpr

open Text (isBlank)

/-- A token is cut off the front of the text, so what is left is the text from its end on. -/
theorem rest_of_next {offset stop : Nat} {text rest : List Char} {found : Token}
    (h : next offset text = .token found stop rest) :
    offset ≤ stop ∧ rest = text.drop (stop - offset) := by
  have hblanks : (text.takeWhile isBlank ++ text.dropWhile isBlank).drop
      (text.takeWhile isBlank).length = text.dropWhile isBlank := List.drop_left
  rw [List.takeWhile_append_dropWhile] at hblanks
  simp only [next] at h
  split at h
  · cases h
  · split at h
    · cases h
    · cases h
      refine ⟨by omega, ?_⟩
      rw [← hblanks, List.drop_drop]
      congr 1
      omega

namespace Scanner

def pulls (reader : Int) : (count : Nat) → Scanner → List Pull
  | 0, _ => []
  | count + 1, scanner => (scanner.pull reader).1 :: pulls reader count (scanner.pull reader).2

/-- The answer behind the last token, when scanning the text stops like this. -/
def lastPull (scanner : Scanner) : Option Nat → Pull
  | none => .finished
  | some stop => .fault (scanner.faultAt stop)

theorem pull_inside {scanner : Scanner} {reader : Int} {offset : Nat}
    (hoffset : scanner.offset = offset) (hreader : scanner.ended.contains reader = false) :
    scanner.pull reader = scanner.pullInside reader := by
  have hbefore : scanner.isBefore = false := by
    rw [isBefore, hoffset, decide_eq_false (by omega), Bool.false_and]
  rw [pull, if_neg (by simp only [hreader, Bool.false_eq_true, not_false_eq_true]),
    if_neg (by simp [hbefore])]

/-- A reader that goes on asking gets what scanning finds from its place on. -/
theorem pulls_scan {scanner : Scanner} {reader : Int} {offset : Nat}
    (hoffset : scanner.offset = offset) (hreader : scanner.ended.contains reader = false) :
    scanner.pulls reader ((scan offset scanner.unread).1.length + 1) =
      (scan offset scanner.unread).1.map .token ++
        [scanner.lastPull (scan offset scanner.unread).2] := by
  have hpull := pull_inside hoffset hreader
  have hplace : scanner.offset.toNat = offset := by omega
  rw [pullInside, hplace] at hpull
  cases hnext : next offset scanner.unread with
  | finished stop =>
      simp only [hnext] at hpull
      rw [scan_of_finished hnext]
      simp [pulls, hpull, lastPull]
  | stuck stop =>
      simp only [hnext] at hpull
      rw [scan_of_stuck hnext]
      simp [pulls, hpull, lastPull]
  | token found stop rest =>
      simp only [hnext] at hpull
      have hless := next_shortens hnext
      obtain ⟨hstop, hrest⟩ := rest_of_next hnext
      have hunread : (scanner.seek stop).unread = rest := by
        rw [hrest, unread, unread, List.drop_drop, hplace]
        congr 1
        simp only [seek, Int.toNat_natCast]
        omega
      have hlater := @pulls_scan (scanner.seek stop) reader stop rfl hreader
      rw [hunread] at hlater
      rw [scan_of_token hnext, List.length_cons, pulls, hpull, hlater, List.map_cons,
        List.cons_append]
      rfl
termination_by scanner.unread.length

end Scanner

end Sexpr
