import Sexpr.Breakdown
import Sexpr.Proofs.Token.Seams
import Sexpr.Proofs.Token.Strings

/-!
Readers that share a scanner. In whatever order they ask, their answers together are one scan of the
text from the place where the first of them started: each token goes to the one that asks next, and
behind the last token every reader meets the same end or the same fault.
-/

namespace Sexpr

open Text (isBlank)

/-- Scanning a text that starts at an offset goes on at a later place in it. -/
structure Lexing.GoesOn (offset : Nat) (text : List Char) (stop : Nat) (tokens : List Token)
    (fault : Option Nat) : Prop where
  le_stop : offset ≤ stop
  stop_le : stop ≤ offset + text.length
  lexing : Lexing stop (text.drop (stop - offset)) tokens fault

namespace Lexing

variable {offset stop : Nat} {text : List Char} {tokens : List Token} {fault : Option Nat}

theorem GoesOn.here (lexing : Lexing offset text tokens fault) :
    GoesOn offset text offset tokens fault := by
  refine ⟨Nat.le_refl offset, Nat.le_add_right offset _, ?_⟩
  rw [Nat.sub_self, List.drop_zero]
  exact lexing

theorem GoesOn.behind (front : List Char)
    (h : GoesOn (offset + front.length) text stop tokens fault) :
    GoesOn offset (front ++ text) stop tokens fault := by
  obtain ⟨hle, hstop, lexing⟩ := h
  refine ⟨by omega, by rw [List.length_append]; omega, ?_⟩
  have hdrop : stop - offset = front.length + (stop - (offset + front.length)) := by omega
  rw [hdrop, List.drop_append, Nat.add_sub_cancel_left, List.drop_eq_nil_of_le (by omega),
    List.nil_append]
  exact lexing

/-- What a text holds next is the first token of its scan, or else the end of the scan; from there
the scan goes on with what is left of it. -/
theorem next_eq (lexing : Lexing offset text tokens fault) :
    match tokens with
    | found :: others => ∃ stop : Nat, found.endOffset = stop ∧
        next offset text = .token found stop (text.drop (stop - offset)) ∧
        GoesOn offset text stop others fault
    | [] => next offset text = fault.elim (.finished (offset + text.length)) .stuck ∧
        GoesOn offset text (fault.getD (offset + text.length)) [] fault := by
  induction lexing with
  | finished => exact ⟨rfl, .here .finished⟩
  | @blank offset c text tokens fault hblank hrest ih =>
      have hlength : offset + (c :: text).length = offset + 1 + text.length := by
        rw [List.length_cons]
        omega
      rw [next_blank hblank]
      cases tokens with
      | cons found others =>
          obtain ⟨stop, hstop, hnext, hothers⟩ := ih
          have hle := hothers.le_stop
          refine ⟨stop, hstop, ?_, .behind [c] hothers⟩
          rw [hnext, show stop - offset = stop - (offset + 1) + 1 by omega, List.drop_succ_cons]
      | nil =>
          obtain ⟨hnext, hrest⟩ := ih
          rw [hlength]
          exact ⟨hnext, .behind [c] hrest⟩
  | @token offset cls word text tokens fault hlexeme hrest ih =>
      have hword := (Lexeme.isWord_of_first? hlexeme).1
      obtain ⟨c, tail, rfl⟩ := List.exists_cons_of_ne_nil hword.ne_nil
      have hnext := next_of_not_blank hword.head_not_blank offset (tail ++ text)
      rw [← List.cons_append, hlexeme, Option.elim_some] at hnext
      refine ⟨offset + (c :: tail).length, ?_, ?_, .behind _ (.here hrest)⟩
      · rw [Token.endOffset, String.length_ofList, Int.natCast_add]
      · rw [Nat.add_sub_cancel_left]
        exact hnext
  | @stuck offset c text hblank hlexeme =>
      have hnext := next_of_not_blank hblank offset text
      rw [hlexeme] at hnext
      exact ⟨hnext, .here (.stuck hblank hlexeme)⟩

end Lexing

namespace Scanner

/-- What is still to come from a scanner: the tokens of its text from its place on, and where the
scan of them stops. -/
structure Awaits (text : List Char) (scanner : Scanner) (tokens : List Token)
    (fault : Option Nat) : Prop where
  text_eq : scanner.text = text
  lexing : ∃ offset : Nat, scanner.offset = offset ∧ offset ≤ text.length ∧
    Lexing offset (text.drop offset) tokens fault

/-- Where scanning goes on, a scanner that was moved there stands right. -/
theorem Awaits.of_goesOn {text : List Char} {offset stop : Nat} {tokens : List Token}
    {fault : Option Nat} (hinside : offset ≤ text.length)
    (h : Lexing.GoesOn offset (text.drop offset) stop tokens fault) (ended : List Int) :
    Awaits text ⟨text, stop, ended⟩ tokens fault := by
  obtain ⟨hle, hstop, lexing⟩ := h
  rw [List.length_drop] at hstop
  rw [List.drop_drop, Nat.add_sub_cancel' hle] at lexing
  exact ⟨rfl, stop, rfl, by omega, lexing⟩

/-- A reader that has not ended takes the next token that is to come. Behind the last one it ends,
and takes nothing from the others. -/
theorem Awaits.pull {text : List Char} {scanner : Scanner} {tokens : List Token}
    {fault : Option Nat} (h : scanner.Awaits text tokens fault) {reader : Int}
    (hreader : scanner.ended.contains reader = false) :
    ∃ after : Scanner, after.Awaits text tokens.tail fault ∧
      match tokens with
      | found :: _ => scanner.pull reader = (.token found, after) ∧
          after.offset = found.endOffset ∧ after.ended = scanner.ended
      | [] => scanner.pull reader = (scanner.lastPull fault, after) ∧
          after.offset = (fault.getD text.length : Nat) ∧
          after.ended = reader :: scanner.ended := by
  obtain ⟨rfl, offset, hoffset, hinside, lexing⟩ := h
  have hplace : scanner.offset.toNat = offset := by omega
  have hunread : scanner.unread = scanner.text.drop offset := by rw [unread, hplace]
  have hpull := pull_inside hoffset hreader
  rw [pullInside, hplace, hunread] at hpull
  have hnext := lexing.next_eq
  cases tokens with
  | cons found others =>
      obtain ⟨stop, hstop, hnext, hothers⟩ := hnext
      rw [hnext] at hpull
      exact ⟨_, .of_goesOn hinside hothers scanner.ended, hpull, hstop.symm, rfl⟩
  | nil =>
      obtain ⟨hnext, hrest⟩ := hnext
      have hend : offset + (scanner.text.drop offset).length = scanner.text.length := by
        rw [List.length_drop]
        omega
      rw [hend] at hnext hrest
      refine ⟨_, .of_goesOn hinside hrest (reader :: scanner.ended), ?_, rfl, rfl⟩
      rw [hpull, hnext]
      cases fault <;> rfl

end Scanner

/-- The token of an answer. Without one the reader that asked has ended. -/
def Pull.token? : Pull → Option Token
  | .token found => some found
  | .finished | .fault _ => none

theorem Scanner.token?_lastPull (scanner : Scanner) (fault : Option Nat) :
    (scanner.lastPull fault).token? = none := by
  cases fault <;> rfl

/-- Readers ask a scanner, one after the other and in any order. The history holds who asked and
what the answer was. A reader counts from its first question on, so new ones may come at any
time. -/
inductive Session (first : Scanner) : List (Int × Pull) → Scanner → Prop
  | start : Session first [] first
  | ask {history scanner} (session : Session first history scanner) (reader : Int) :
    Session first (history ++ [(reader, (scanner.pull reader).1)]) (scanner.pull reader).2

namespace Session

theorem answered {first scanner after : Scanner} {history : List (Int × Pull)} {answer : Pull}
    (session : Session first history scanner) (reader : Int)
    (h : scanner.pull reader = (answer, after)) :
    Session first (history ++ [(reader, answer)]) after := by
  have hask := session.ask reader
  rw [h] at hask
  exact hask

/-- The tokens that were given out, whoever got them. -/
def given (history : List (Int × Pull)) : List Token :=
  history.filterMap fun (_, answer) => answer.token?

def hasEnded (history : List (Int × Pull)) (reader : Int) : Bool :=
  history.any fun (other, answer) => other == reader && answer.token?.isNone

theorem given_append (history : List (Int × Pull)) (reader : Int) (answer : Pull) :
    given (history ++ [(reader, answer)]) = given history ++ answer.token?.toList := by
  rw [given, List.filterMap_append]
  cases h : answer.token? <;> simp [given, h]

theorem hasEnded_append (history : List (Int × Pull)) (asking : Int) (answer : Pull)
    (reader : Int) :
    hasEnded (history ++ [(asking, answer)]) reader =
      (hasEnded history reader || (asking == reader && answer.token?.isNone)) := by
  simp [hasEnded, List.any_append]

/-- At every moment the tokens given out and those still to come make up the scan, and the readers
that ended are those that the scanner takes for ended. -/
theorem invariant {first scanner : Scanner} {history : List (Int × Pull)}
    (session : Session first history scanner) {text : List Char} {tokens : List Token}
    {fault : Option Nat} (hfirst : first.Awaits text tokens fault) (hfresh : first.ended = []) :
    ∃ coming, tokens = given history ++ coming ∧ scanner.Awaits text coming fault ∧
      ∀ reader, scanner.ended.contains reader = hasEnded history reader := by
  induction session with
  | start => exact ⟨tokens, rfl, hfirst, by simp [hfresh, hasEnded]⟩
  | @ask history scanner session asking ih =>
      obtain ⟨coming, htokens, hawaits, hended⟩ := ih
      cases hasking : scanner.ended.contains asking with
      | true =>
          -- The reader has ended before, so it gets nothing and nothing changes.
          have hpull : scanner.pull asking = (.finished, scanner) := if_pos hasking
          rw [hpull, given_append]
          refine ⟨coming, by rw [htokens]; simp [Pull.token?], hawaits, fun reader => ?_⟩
          rw [hasEnded_append, ← hended]
          cases hsame : asking == reader with
          | false => simp
          | true =>
              rw [beq_iff_eq] at hsame
              subst hsame
              rw [hasking, Bool.true_or]
      | false =>
          obtain ⟨after, hafter, hpull⟩ := hawaits.pull hasking
          cases coming with
          | cons found others =>
              obtain ⟨hpull, -, hkept⟩ := hpull
              rw [hpull, given_append]
              refine ⟨others, by rw [htokens]; simp [Pull.token?], hafter, fun reader => ?_⟩
              rw [hkept, hended, hasEnded_append]
              simp [Pull.token?]
          | nil =>
              obtain ⟨hpull, -, hnow⟩ := hpull
              rw [hpull, given_append, scanner.token?_lastPull]
              refine ⟨[], by rw [htokens]; simp, hafter, fun reader => ?_⟩
              rw [hnow, hasEnded_append, scanner.token?_lastPull, List.contains_cons, hended,
                Bool.or_comm, BEq.comm]
              simp

end Session

/-- What stands inside of a text that is no longer than texts can be is blamed by its place. -/
theorem Scanner.faultAt_of_lt {scanner : Scanner} {index : Nat}
    (hindex : index < scanner.text.length) (hlimit : scanner.text.length ≤ Breakdown.textLimit) :
    scanner.faultAt index = .lexing (.ofOffset scanner.text index) := by
  rw [Breakdown.textLimit] at hlimit
  have hplace : Index.place scanner.text.length index = .ok index := by
    have hindices : Index.isIndex index = true := by
      rw [Index.isIndex, Bool.and_eq_true, decide_eq_true_iff, decide_eq_true_iff]
      omega
    have hfront : ¬(index : Int) < 0 := by omega
    simp [Index.place, hindices, hfront, hindex]
  simp [faultAt, LexFault.ofIndex, hplace, Except.map]

/-- A scan stops at a character of its text. -/
theorem Lexing.stop_lt {text : List Char} {tokens : List Token} {stop : Nat}
    (lexing : Lexing 0 text tokens (some stop)) : stop < text.length := by
  obtain ⟨front, rest, htext, hstop, -⟩ := lexing.before_fault rfl
  rw [htext, List.length_append, List.length_cons]
  omega

/-- Up to its fault a text has the tokens that were found, and no fault. -/
theorem Lexing.tokenize_take {text : List Char} {tokens : List Token} {stop : Nat}
    (lexing : Lexing 0 text tokens (some stop)) :
    tokenize (String.ofList (text.take stop)) = .ok tokens := by
  obtain ⟨front, rest, htext, hstop, hfront⟩ := lexing.before_fault rfl
  have hbefore : text.take stop = front := by
    rw [htext, hstop, Nat.zero_add, List.take_left]
  rw [hbefore, tokenize_eq_ok_iff, String.toList_ofList]
  exact hfront

/-- Readers of one scanner share one scan. Wherever in the text it starts, and in whatever order
they ask, the tokens that they have got are the first ones that the rest of the text has as a text
of its own, up to its fault if it has one. A reader that has not ended gets the next of them, and
the scanner then stands behind it. When none is left the reader ends at the end of the text or at
the fault, which is always the same, and the scanner stays there. A reader that has ended changes
nothing. -/
theorem Session.shares_scan {text : String} {start : Nat} (hstart : start ≤ text.length)
    {history : List (Int × Pull)} {scanner : Scanner}
    (session : Session ((Scanner.ofText text).seek start) history scanner) (reader : Int) :
    let unread := text.toList.drop start
    let outcome := tokenize (String.ofList unread)
    let after := (scanner.pull reader).2
    ∃ found coming : List Token,
      (match outcome with
        | .ok tokens => found = tokens
        | .error fault => tokenize (String.ofList (unread.take fault.offset.toNat)) = .ok found) ∧
      found.map (Token.moved (· + start)) = given history ++ coming ∧
      if hasEnded history reader then scanner.pull reader = (.finished, scanner)
      else match coming, outcome with
        | token :: _, _ => (scanner.pull reader).1 = .token token ∧ after.offset = token.endOffset
        | [], .ok _ => (scanner.pull reader).1 = .finished ∧ after.offset = text.length
        | [], .error fault => ∃ cause, (scanner.pull reader).1 = .fault cause ∧
            after.offset = fault.offset + start ∧
            (text.length ≤ Breakdown.textLimit →
              cause = .lexing (.ofOffset text.toList after.offset.toNat)) := by
  intro unread outcome after
  rw [← String.length_toList] at hstart ⊢
  obtain ⟨found, fault, lexing⟩ := exists_lexing 0 unread
  have hmoved := lexing.moved start
  rw [Nat.zero_add] at hmoved
  have hfirst : ((Scanner.ofText text).seek start).Awaits text.toList
      (found.map (Token.moved (· + start))) (fault.map (· + start)) :=
    ⟨rfl, start, rfl, hstart, hmoved⟩
  obtain ⟨coming, hgiven, hawaits, hended⟩ := session.invariant hfirst rfl
  have houtcome : outcome = fault.elim (.ok found) (.error <| .ofOffset unread ·) := by
    simp only [outcome, tokenize, String.toList_ofList, lexing.scan_eq]
    cases fault <;> rfl
  refine ⟨found, coming, ?_, hgiven, ?_⟩
  · rw [houtcome]
    cases fault with
    | none => rfl
    | some stop => exact lexing.tokenize_take
  · cases hreader : hasEnded history reader with
    | true => exact if_pos ((hended reader).trans hreader)
    | false =>
        obtain ⟨next, hnext, hpull⟩ := hawaits.pull ((hended reader).trans hreader)
        cases coming with
        | cons token others =>
            obtain ⟨hpull, hoffset, -⟩ := hpull
            have hafter : after = next := congrArg Prod.snd hpull
            exact ⟨congrArg Prod.fst hpull, hafter ▸ hoffset⟩
        | nil =>
            obtain ⟨hpull, hoffset, -⟩ := hpull
            have hafter : after = next := congrArg Prod.snd hpull
            rw [houtcome, hafter]
            cases fault with
            | none => exact ⟨congrArg Prod.fst hpull, hoffset⟩
            | some stop =>
                have hinside : stop < unread.length := lexing.stop_lt
                have hindex : stop + start < text.toList.length := by
                  have hlength : unread.length = text.toList.length - start := List.length_drop
                  omega
                have hplace : next.offset.toNat = stop + start := by
                  rw [hoffset]
                  rfl
                refine ⟨_, congrArg Prod.fst hpull, hoffset, fun hlimit => ?_⟩
                rw [← hawaits.text_eq] at hindex hlimit
                rw [hplace, ← hawaits.text_eq]
                exact Scanner.faultAt_of_lt hindex hlimit

/-- Two readers of a text with a string that has no end, from behind its first parenthesis on. The
one has met the fault already, and the other meets it too. -/
theorem Session.shares_scan_unended :
    let text := "(a) \"b"
    let last : Scanner := ⟨text.toList, 4, [0]⟩
    let fault : Pull := .fault (.lexing (.ofOffset text.toList 4))
    1 ≤ text.length ∧ Session ((Scanner.ofText text).seek 1) [(0, .token ⟨.lexical .id, "a", 1⟩),
      (7, .token ⟨.lexical .literal, ")", 2⟩), (0, fault)] last ∧
      (last.pull 7).1 = fault ∧ (last.pull 7).2.offset = 4 := by
  intro text last fault
  have htext : text.toList = ['(', 'a', ')', ' ', '"', 'b'] := by simp [text]
  have hstart : 1 ≤ text.length := by decide
  have hone : ((Scanner.ofText "(a) \"b").seek 1).pull 0 =
      (.token ⟨.lexical .id, "a", 1⟩, ⟨"(a) \"b".toList, 2, []⟩) := rfl
  have htwo : Scanner.pull ⟨"(a) \"b".toList, 2, []⟩ 7 =
      (.token ⟨.lexical .literal, ")", 2⟩, ⟨"(a) \"b".toList, 3, []⟩) := rfl
  have hthree : Scanner.pull ⟨"(a) \"b".toList, 3, []⟩ 0 = (fault, last) := rfl
  have session := ((Session.start.answered 0 hone).answered 7 htwo).answered 0 hthree
  -- Behind the first parenthesis two tokens precede the fault, and both have been given out.
  have houtcome : tokenize (String.ofList (text.toList.drop 1)) =
      .error (.ofOffset (text.toList.drop 1) 3) := by
    have lexing : Lexing 0 ['a', ')', ' ', '"', 'b'] _ (some 3) :=
      @Lexing.cut _ _ ⟨.id, ['a']⟩ _ _ rfl
        (@Lexing.cut _ _ ⟨.literal, [')']⟩ _ _ rfl (.blank rfl (.stuck rfl rfl)))
    rw [tokenize, String.toList_ofList, htext, List.drop_succ_cons, List.drop_zero,
      lexing.scan_eq]
  have hfound : tokenize (String.ofList ((text.toList.drop 1).take 3)) =
      .ok [⟨.lexical .id, "a", 0⟩, ⟨.lexical .literal, ")", 1⟩] := by
    rw [tokenize_eq_ok_iff, String.toList_ofList, htext]
    exact @Lexing.cut _ _ ⟨.id, ['a']⟩ _ _ rfl
      (@Lexing.cut _ _ ⟨.literal, [')']⟩ _ _ rfl (.blank rfl .finished))
  obtain ⟨found, coming, hbefore, hgiven, hpull⟩ := Session.shares_scan hstart session 7
  rw [houtcome] at hbefore hpull
  obtain rfl : _ = found := Except.ok.inj (hfound.symm.trans hbefore)
  obtain rfl : coming = [] := List.self_eq_append_right.mp hgiven
  obtain ⟨cause, hanswer, hoffset, hcause⟩ := hpull
  have hfour : (last.pull 7).2.offset = 4 := hoffset
  have hlexing := hcause (by decide)
  rw [hfour] at hlexing
  exact ⟨hstart, session, hanswer.trans (congrArg Pull.fault hlexing), hfour⟩

end Sexpr
