import Sexpr.Grammar.Cursor
import Sexpr.Proofs.Grammar.DepthScan

/-!
Where a parse gives up. Parsing goes from left to right and stops at the first token with which no
program can go on: what stands in front of that token can still be completed, and with the token
nothing can. Where the tokens run out instead, closing the lists that are open completes them.
-/

namespace Sexpr

open Grammar

namespace Grammar

/-- Closing all lists that are open ends a scan well. -/
theorem verdict_closers {limit opened : Nat} {strict : Bool} {closers : List Token}
    (hclosers : ∀ closer ∈ closers, closer.text = ")") (hlength : closers.length = opened) :
    verdict limit strict opened closers = .accepted := by
  induction closers generalizing opened with
  | nil =>
      subst hlength
      rfl
  | cons closer closers ih =>
      subst hlength
      rw [List.forall_mem_cons] at hclosers
      rw [List.length_cons, verdict_close hclosers.1]
      exact ih hclosers.2 rfl

/-- Tokens that a scan passes are completed by closing the lists that are open behind them. -/
theorem Passes.exists_tree {limit opened : Nat} {strict : Bool} {taken closers : List Token}
    (hpasses : Passes limit strict 0 taken opened)
    (hkinds : ∀ token ∈ taken, token.kind.isLexical = true)
    (hclosers : ∀ closer ∈ closers, closer.text = ")" ∧ closer.kind.isLexical = true)
    (hlength : closers.length = opened) :
    ∃ tree, parseWithin limit strict (taken ++ closers) = .ok tree := by
  have hverdict : verdict limit strict 0 (taken ++ closers) = .accepted := by
    rw [hpasses.verdict_append]
    exact verdict_closers (fun closer member => (hclosers closer member).1) hlength
  have hall : ∀ token ∈ taken ++ closers, token.kind.isLexical = true := fun token member =>
    (List.mem_append.mp member).elim (hkinds token) fun member => (hclosers token member).2
  have hparse := parseWithin_of_fault? limit strict hall
  rw [hverdict] at hparse
  exact hparse

/-- Only tokens of the token classes get into a tree. -/
theorem isLexical_of_parseWithin {limit : Nat} {strict : Bool} {tokens : List Token} {tree : Tree}
    (h : parseWithin limit strict tokens = .ok tree) :
    ∀ token ∈ tokens, token.kind.isLexical = true := by
  intro token member
  have hcontent : token.content ∈ tree.contents := by
    rw [contents_of_parseWithin h]
    exact List.mem_map_of_mem member
  obtain ⟨leaf, hleaf, hsame⟩ := List.mem_map.mp hcontent
  have hkind : leaf.symbol = token.kind := congrArg Prod.fst hsame
  rw [← hkind]
  cases leaf with
  | leaf cls text => rfl
  | branch rule children => simp [Tree.leaves, Tree.isLeaf] at hleaf

/-- Nothing behind a token at which a scan stops makes up for it. -/
theorem Passes.parseWithin_ne_ok {limit opened : Nat} {mode : Mode} {taken : List Token}
    {token : Token} (hpasses : Passes limit mode.strict 0 taken opened) (hword : token.text ≠ "(")
    (hclose : token.text = ")" → opened = 0) (hkind : admits mode token = false)
    (others : List Token) (tree : Tree) :
    parseWithin limit mode.strict (taken ++ token :: others) ≠ .ok tree := by
  intro h
  have hverdict : verdict limit mode.strict 0 (taken ++ token :: others) = .notAtom token := by
    rw [hpasses.verdict_append, verdict_word hword hclose, if_neg (by simp [hkind])]
  have hparse := parseWithin_of_fault? limit mode.strict (isLexical_of_parseWithin h)
  rw [hverdict, h] at hparse
  cases hparse

theorem exists_closers (opened : Nat) : ∃ closers : List Token, closers.length = opened ∧
    ∀ closer ∈ closers, closer.text = ")" ∧ closer.kind.isLexical = true := by
  refine ⟨List.replicate opened ⟨.lexical .literal, ")", 0⟩, List.length_replicate, ?_⟩
  intro closer member
  obtain rfl := List.eq_of_mem_replicate member
  exact ⟨rfl, rfl⟩

theorem exists_last_of_passes {limit opened : Nat} {strict : Bool} {taken : List Token}
    (hpasses : Passes limit strict 0 taken (opened + 1)) :
    ∃ last, taken.getLast? = some last ∧ Token.endOf taken = last.endOffset := by
  cases hlast : taken.getLast? with
  | none =>
      rw [List.getLast?_eq_none_iff] at hlast
      subst hlast
      cases hpasses.foldl_eq
  | some last => exact ⟨last, rfl, by rw [Token.endOf, hlast]⟩

end Grammar

/-- A parse at the start of a cursor's tokens stands in front of what it did not read. -/
theorem Cursor.run_program_of_reading {limit : Nat} {strict : Bool} {tokens rest : List Token}
    {cause : ParseFault}
    (reading : Reading ⟨strict, Token.endOf tokens⟩ limit (.expressions List.isEmpty) tokens
      (.fault cause rest)) :
    (Cursor.ofTokens tokens strict).run (program limit) =
      (.error (.parsing cause), ⟨tokens, (tokens.length - rest.length : Nat), strict⟩) := by
  have hparse : program limit ⟨strict, Token.endOf tokens⟩ tokens = .fault cause rest := by
    rw [program_eq, reading.parse_eq]
    rfl
  simp [Cursor.run, Cursor.unread, Cursor.ofTokens, Cursor.mode, Cursor.seek, hparse]

theorem Cursor.exists_reading_of_run_program {limit : Nat} {strict : Bool} {tokens : List Token}
    {cause : ParseFault} {cursor : Cursor}
    (h : (Cursor.ofTokens tokens strict).run (program limit) = (.error (.parsing cause), cursor)) :
    ∃ rest, cursor.index = (tokens.length - rest.length : Nat) ∧
      Reading ⟨strict, Token.endOf tokens⟩ limit (.expressions List.isEmpty) tokens
        (.fault cause rest) := by
  obtain ⟨outcome, reading⟩ :=
    exists_reading ⟨strict, Token.endOf tokens⟩ limit (.expressions List.isEmpty) tokens
  cases outcome with
  | fault cause' rest =>
      rw [run_program_of_reading reading] at h
      cases h
      exact ⟨rest, rfl, reading⟩
  | ok trees rest =>
      have hparse : program limit ⟨strict, Token.endOf tokens⟩ tokens =
          .ok (.branch .program trees) rest := by
        rw [program_eq, reading.parse_eq]
        rfl
      simp [Cursor.run, Cursor.unread, Cursor.ofTokens, Cursor.mode, hparse] at h

/-- A parse that fails, but not for want of room, stands at the first token with which no program
goes on, or behind the last token if the tokens so far can be completed. -/
theorem Cursor.run_program_viable (limit : Nat) (strict : Bool) (tokens : List Token)
    (hkinds : ∀ token ∈ tokens, token.kind.isLexical = true) (fault : SyntaxFault)
    (cursor : Cursor)
    (hrun : (Cursor.ofTokens tokens strict).run (program limit) =
      (.error (.parsing (.rejected fault)), cursor))
    (hroom : ∀ offset, fault ≠ .tooDeep offset) :
    ∃ index : Nat, cursor.index = index ∧ index ≤ tokens.length ∧
      (∀ token, tokens[index]? = some token →
        fault.offset? = some token.offset ∧ fault.found? = some (Text.quoted token.text) ∧
        (∃ others tree, (∀ other ∈ others, other.kind.isLexical = true) ∧
          parseWithin limit strict (tokens.take index ++ others) = .ok tree) ∧
        ∀ others tree, parseWithin limit strict (tokens.take (index + 1) ++ others) ≠ .ok tree) ∧
      (index = tokens.length →
        (∃ last, tokens.getLast? = some last ∧ fault.offset? = some last.endOffset) ∧
        ∀ closers, closers.length = tokens.foldl Token.openedAfter 0 →
          (∀ closer ∈ closers, closer.text = ")" ∧ closer.kind.isLexical = true) →
          ∃ tree, parseWithin limit strict (tokens ++ closers) = .ok tree) := by
  obtain ⟨rest, hindex, reading⟩ := Cursor.exists_reading_of_run_program hrun
  obtain ⟨taken, opened, fault', rfl, hpasses, hcause, hstops⟩ :=
    reading.follows (Nat.zero_add limit) rfl hkinds
  cases hcause
  have htaken : ∀ token ∈ taken, token.kind.isLexical = true := fun token member =>
    hkinds token (List.mem_append_left rest member)
  rw [List.length_append, Nat.add_sub_cancel] at hindex
  refine ⟨taken.length, hindex, by simp, ?_, ?_⟩
  · intro token htoken
    rw [List.getElem?_append_right (Nat.le_refl _), Nat.sub_self] at htoken
    cases hstops with
    | tooDeep => exact absurd rfl (hroom _)
    | unclosed => cases htoken
    | @notAtom opened found rest hword hclose hkind =>
        cases htoken
        refine ⟨rfl, rfl, ?_, fun others tree => ?_⟩
        · obtain ⟨closers, hlength, hclosers⟩ := exists_closers opened
          obtain ⟨tree, htree⟩ := hpasses.exists_tree htaken hclosers hlength
          rw [List.take_left]
          exact ⟨closers, tree, fun closer member => (hclosers closer member).2, htree⟩
        · rw [List.take_length_add_append, List.append_assoc]
          exact hpasses.parseWithin_ne_ok hword hclose hkind others tree
  · intro hend
    obtain rfl : rest = [] := by simpa using hend
    cases hstops with
    | @unclosed opened =>
        rw [List.append_nil] at hpasses ⊢
        obtain ⟨last, hlast, hend⟩ := exists_last_of_passes hpasses
        refine ⟨⟨last, hlast, by rw [← hend]; rfl⟩, fun closers hlength hclosers => ?_⟩
        rw [hpasses.foldl_eq] at hlength
        exact hpasses.exists_tree htaken hclosers hlength

/-- A list, a parenthesis that closes nothing, and a word that could have been an atom. -/
theorem Cursor.run_program_viable_unopened :
    let tokens : List Token := [⟨.lexical .literal, "(", 0⟩, ⟨.lexical .id, "a", 1⟩,
      ⟨.lexical .literal, ")", 2⟩, ⟨.lexical .literal, ")", 3⟩, ⟨.lexical .id, "b", 5⟩]
    (∀ token ∈ tokens, token.kind.isLexical = true) ∧
    (Cursor.ofTokens tokens true).run (program 1) =
      (.error (.parsing (.rejected (.notAtom ")" 3))), ⟨tokens, 3, true⟩) ∧
    (∃ others tree, parseWithin 1 true (tokens.take 3 ++ others) = .ok tree) ∧
    ∀ others tree, parseWithin 1 true (tokens.take 4 ++ others) ≠ .ok tree := by
  intro tokens
  have hkinds : ∀ token ∈ tokens, token.kind.isLexical = true := by decide
  have hword : Reading ⟨true, 6⟩ 0 .expression (tokens.drop 1)
      (.ok [atomTree (.leaf .id "a")] (tokens.drop 2)) := .atom (by decide) rfl rfl
  have hlist : Reading ⟨true, 6⟩ 1 .expression tokens _ :=
    .list rfl rfl (.more rfl hword (.done rfl)) rfl rfl
  have reading : Reading ⟨true, 6⟩ 1 (.expressions List.isEmpty) tokens
      (.fault (.rejected (.notAtom ")" 3)) (tokens.drop 3)) :=
    .more rfl hlist (.failed rfl (.notAtom (by decide) rfl))
  have hrun : (Cursor.ofTokens tokens true).run (program 1) =
      (.error (.parsing (.rejected (.notAtom ")" 3))), ⟨tokens, 3, true⟩) :=
    @Cursor.run_program_of_reading 1 true tokens (tokens.drop 3) _ reading
  obtain ⟨index, hindex, -, hinside, -⟩ :=
    Cursor.run_program_viable 1 true tokens hkinds _ _ hrun (by simp)
  obtain rfl : 3 = index := Int.ofNat.inj hindex
  obtain ⟨-, -, ⟨others, tree, -, htree⟩, hnone⟩ := hinside _ rfl
  exact ⟨hkinds, hrun, ⟨others, tree, htree⟩, hnone⟩

end Sexpr
