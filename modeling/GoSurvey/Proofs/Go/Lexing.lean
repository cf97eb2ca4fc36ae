import Mathlib.Data.List.Chain
import GoSurvey.Proofs.Go.Space

/-!
# Putting a comment in for a space

A space that is part of no literal and of no comment stands between two pieces of a source. If a
comment is put in after it, all tokens stay what they are, and the comments are the ones that were
there and the new one (`lex_note`). The places of tokens and comments change, but not their order.

There is one exception. If a comment is opened before the space and never closed, its first two
characters are operators, and the comment that is put in closes it. So a place where this is the
case is no `Gap`. A byte that is zero ends all hope that an open comment is closed.
-/

namespace GoSurvey

/-- Whether a byte lies in a span. -/
def Span.Covers (s : Span) (byte : Nat) : Prop :=
  s.startByte ≤ byte ∧ byte < s.endByte

instance (s : Span) (byte : Nat) : Decidable (s.Covers byte) :=
  inferInstanceAs (Decidable (_ ∧ _))

namespace Go

/-- Whether two tokens are the start of a comment that is not closed: a slash and directly after it
a star. -/
def Token.OpenComment (t u : Token) : Prop :=
  t.isMark "/" = true ∧ u.text.toList.head? = some '*' ∧ t.span.endByte = u.span.startByte

instance (t u : Token) : Decidable (t.OpenComment u) :=
  inferInstanceAs (Decidable (_ ∧ _ ∧ _))

/-- A place after some bytes that lies in no literal and in no comment, and where no comment is
open. -/
structure Gap (pre : List UInt8) (tokens : List Token) (comments : List Comment) : Prop where
  outside_texts : ∀ t ∈ tokens, t.kind.isText = true → ¬ t.span.Covers pre.length
  outside_comments : ∀ c ∈ comments, ¬ c.span.Covers pre.length
  closed : tokens.IsChain fun t u =>
    u.span.startByte ≤ pre.length → t.OpenComment u → 0 ∈ pre.drop u.span.startByte

instance (pre : List UInt8) (tokens : List Token) (comments : List Comment) :
    Decidable (Gap pre tokens comments) :=
  decidable_of_iff
    ((∀ t ∈ tokens, t.kind.isText = true → ¬ t.span.Covers pre.length) ∧
      (∀ c ∈ comments, ¬ c.span.Covers pre.length) ∧
      tokens.IsChain fun t u =>
        u.span.startByte ≤ pre.length → t.OpenComment u → 0 ∈ pre.drop u.span.startByte)
    ⟨fun h => ⟨h.1, h.2.1, h.2.2⟩, fun h => ⟨h.1, h.2, h.3⟩⟩

/-- Whether some comments are those of another list, at places of their own, and besides them only
comments that start at a certain place. No comment of a lower rank comes after such a one. -/
inductive Noted (place : Nat) : List Comment → List Comment → Prop
  | nil : Noted place [] []
  | cons {c c' : Comment} {cs cs' : List Comment} (text : c.text = c'.text)
    (rank : c.rank = c'.rank) (rest : Noted place cs cs') : Noted place (c :: cs) (c' :: cs')
  | extra {c : Comment} {cs cs' : List Comment} (start : c.span.startByte = place)
    (rank : ∀ c' ∈ cs', c.rank ≤ c'.rank) (rest : Noted place cs cs') : Noted place cs (c :: cs')

/-- The same comments before. -/
theorem Noted.append_left {place : Nat} {cs cs' : List Comment} (before : List Comment)
    (h : Noted place cs cs') : Noted place (before ++ cs) (before ++ cs') := by
  induction before with
  | nil => exact h
  | cons c before ih => exact .cons rfl rfl ih

namespace Lexer

open Rune

/-! ## Reading a text to its end -/

/-- Fuel for every rune is enough. -/
theorem run_eq_of_le : ∀ {n m : Nat} {s : State} {rs : List Rune}, rs.length ≤ n → rs.length ≤ m →
    run n s rs = run m s rs
  | n, m, s, [], _, _ => by cases n <;> cases m <;> rfl
  | n + 1, m + 1, s, r :: rs, hn, hm => by
    have hpos := piece_pos (r :: rs)
    have hle : ((r :: rs).drop (piece (r :: rs)).2).length ≤ rs.length := by
      rw [List.length_drop, List.length_cons]
      omega
    rw [run, run]
    exact run_eq_of_le (Nat.le_trans hle (Nat.le_of_succ_le_succ hn))
      (Nat.le_trans hle (Nat.le_of_succ_le_succ hm))

/-- Reading takes one piece after the other. -/
theorem readAll_step (s : State) {rs : List Rune} (h : rs ≠ []) :
    readAll s rs =
      readAll (s.pass (piece rs).1 (rs.take (piece rs).2)) (rs.drop (piece rs).2) := by
  cases rs with
  | nil => exact absurd rfl h
  | cons r rs =>
    have hpos := piece_pos (r :: rs)
    have hle : ((r :: rs).drop (piece (r :: rs)).2).length ≤ rs.length := by
      rw [List.length_drop, List.length_cons]
      omega
    rw [readAll, List.length_cons, run]
    exact run_eq_of_le hle (Nat.le_refl _)

/-- What holds at the end of a text, and before a piece if it holds after it, holds throughout. -/
theorem readAll_induction {motive : State → List Rune → Prop} (nil : ∀ s, motive s [])
    (step : ∀ s rs, rs ≠ [] →
      motive (s.pass (piece rs).1 (rs.take (piece rs).2)) (rs.drop (piece rs).2) → motive s rs)
    (s : State) (rs : List Rune) : motive s rs := by
  induction hn : rs.length using Nat.strongRecOn generalizing s rs with
  | ind n ih =>
    by_cases h : rs = []
    · exact h ▸ nil s
    · have hpos := piece_pos rs
      have hlength := List.length_pos_iff.2 h
      refine step s rs h (ih _ ?_ _ _ rfl)
      rw [List.length_drop]
      omega

/-- The place after some runes is as many bytes further. -/
theorem byte_afterAll (p : Place) (rs : List Rune) : (p.afterAll rs).byte = p.byte + bytes rs := by
  induction rs generalizing p with
  | nil => rfl
  | cons r rs ih =>
    have hafter : (p.after r).byte = p.byte + r.size := by
      unfold Place.after
      split <;> rfl
    rw [Place.afterAll, List.foldl_cons]
    exact (ih (p.after r)).trans (by rw [hafter, bytes_cons, Nat.add_assoc])

/-- Every piece is passed. -/
theorem byte_pass (s : State) (p : Piece) (rs : List Rune) :
    (s.pass p rs).place.byte = s.place.byte + bytes rs := by
  cases p <;> exact byte_afterAll s.place rs

/-- Tokens and comments are only added. -/
theorem suffix_readAll (s : State) (rs : List Rune) :
    s.tokens <:+ (readAll s rs).tokens ∧ s.comments <:+ (readAll s rs).comments := by
  induction s, rs using readAll_induction with
  | nil s => exact ⟨List.suffix_rfl, List.suffix_rfl⟩
  | step s rs h ih =>
    rw [readAll_step s h]
    have hpass (p : Piece) (rs : List Rune) :
        s.tokens <:+ (s.pass p rs).tokens ∧ s.comments <:+ (s.pass p rs).comments := by
      cases p with
      | blank => exact ⟨List.suffix_rfl, List.suffix_rfl⟩
      | comment => exact ⟨List.suffix_rfl, List.suffix_cons ..⟩
      | token kind => exact ⟨List.suffix_cons .., List.suffix_rfl⟩
    exact ⟨(hpass _ _).1.trans ih.1, (hpass _ _).2.trans ih.2⟩

/-! ## Up to the space -/

/-- The start of a comment that is not closed is an operator. -/
theorem lexeme_slash_star (n m : Nat) (rs : List Rune) :
    lexeme (⟨some '/', n⟩ :: ⟨some '*', m⟩ :: rs) = (.mark, 1) := rfl

/-- A star starts an operator. -/
theorem lexeme_star (n : Nat) (rs : List Rune) :
    lexeme (⟨some '*', n⟩ :: rs) = (.mark, if aheadIs '=' rs then 2 else 1) := by
  have hnone : longest (candidates (⟨some '*', n⟩ :: rs)) = (.stray, 0) := by
    cases rs <;> rfl
  have hmark : mark (⟨some '*', n⟩ :: rs) = if aheadIs '=' rs then 2 else 1 := by
    rcases rs with _ | ⟨⟨_ | c, m⟩, rs⟩
    · rfl
    · rfl
    · by_cases hc : c = '='
      · subst hc
        rfl
      · have hahead : aheadIs '=' (⟨some c, m⟩ :: rs) = false := by
          simpa [aheadIs, ahead, Rune.satisfies] using hc
        simp [mark, marks, startsWith, Rune.is, hc, hahead]
        rfl
  rw [lexeme, hnone, if_pos rfl, hmark]
  cases aheadIs '=' rs <;> rfl

/-- The first two runes of what starts like a comment. -/
theorem eq_of_startsWith {x : List Rune} (h : startsWith ['/', '*'] x = true) :
    ∃ n m x', x = ⟨some '/', n⟩ :: ⟨some '*', m⟩ :: x' := by
  rcases x with _ | ⟨⟨c, n⟩, _ | ⟨⟨d, m⟩, x⟩⟩
  · cases h
  · simp [startsWith] at h
  · simp only [startsWith, Rune.is, Bool.and_eq_true, beq_iff_eq] at h
    obtain ⟨rfl, rfl, -⟩ := h
    exact ⟨n, m, x, rfl⟩

/-- A comment that is opened and not closed shows in the tokens. -/
theorem openComment_readAll {s : State} {x rest : List Rune} {n m : Nat}
    (hopen : comment (⟨some '/', n⟩ :: ⟨some '*', m⟩ :: (x ++ rest)) = 0) :
    ∃ t u, u :: t :: s.tokens <:+
        (readAll s (⟨some '/', n⟩ :: ⟨some '*', m⟩ :: x ++ rest)).tokens ∧
      t.OpenComment u ∧ u.span.startByte = s.place.byte + n := by
  have hslash : piece (⟨some '/', n⟩ :: ⟨some '*', m⟩ :: (x ++ rest)) = (.token .mark, 1) := by
    have hspace : ahead isSpace (⟨some '/', n⟩ :: ⟨some '*', m⟩ :: (x ++ rest)) = false := rfl
    rw [piece, hspace, hopen, lexeme_slash_star]
    rfl
  have hstar : piece (⟨some '*', m⟩ :: (x ++ rest)) =
      (.token .mark, if aheadIs '=' (x ++ rest) then 2 else 1) := by
    have hspace : ahead isSpace (⟨some '*', m⟩ :: (x ++ rest)) = false := rfl
    have hcomment : comment (⟨some '*', m⟩ :: (x ++ rest)) = 0 := rfl
    rw [piece, hspace, hcomment, lexeme_star]
    rfl
  have htext : (Rune.text ((⟨some '*', m⟩ :: (x ++ rest)).take
      (if aheadIs '=' (x ++ rest) then 2 else 1))).toList.head? = some '*' := by
    split
    · rename_i hequals
      rcases hx : x ++ rest with _ | ⟨⟨_ | c, k⟩, rs⟩
      · rw [hx] at hequals
        cases hequals
      · rw [hx] at hequals
        cases hequals
      · simp [Rune.text]
    · simp [Rune.text]
      rfl
  let slash := s.token .mark [⟨some '/', n⟩]
  let star := slash.token .mark ((⟨some '*', m⟩ :: (x ++ rest)).take
    (if aheadIs '=' (x ++ rest) then 2 else 1))
  have hread : readAll s (⟨some '/', n⟩ :: ⟨some '*', m⟩ :: x ++ rest) = readAll star
      ((⟨some '*', m⟩ :: (x ++ rest)).drop (if aheadIs '=' (x ++ rest) then 2 else 1)) := by
    rw [List.cons_append, List.cons_append, readAll_step s (List.cons_ne_nil _ _), hslash]
    rw [List.drop_one, List.tail_cons, readAll_step _ (List.cons_ne_nil _ _), hstar]
    rfl
  have hsuffix := (suffix_readAll star
    ((⟨some '*', m⟩ :: (x ++ rest)).drop (if aheadIs '=' (x ++ rest) then 2 else 1))).1
  rw [← hread] at hsuffix
  refine ⟨_, _, hsuffix, ⟨?_, htext, rfl⟩, ?_⟩
  · simp [Token.isMark, Rune.text]
  · exact byte_afterAll s.place [⟨some '/', n⟩]

/-- A piece that goes beyond a space covers it. -/
theorem covers_of_lt {s : State} {x y : List Rune} {n : Nat} (h : x.length < n) :
    (s.place.spanTo (s.place.afterAll ((x ++ space :: y).take n))).Covers
      (s.place.byte + bytes x) := by
  have htake : (x ++ space :: y).take n = x ++ space :: y.take (n - x.length - 1) := by
    rw [List.take_append, List.take_of_length_le (Nat.le_of_lt h), List.take_cons (by omega)]
  refine ⟨Nat.le_add_right .., ?_⟩
  show _ < (s.place.afterAll _).byte
  rw [byte_afterAll, htake, bytes_append, bytes_cons]
  simp only [space]
  omega

/-- Up to a gap, a text is read in the same way whether or not a comment is put in there. -/
theorem readAll_to_space {pre : List UInt8} {y : List Rune} (x : List Rune) (s : State)
    (hplace : s.place.byte + bytes x = pre.length)
    (hnul : ∀ a b, x = a ++ b → 0 ∈ pre.drop (s.place.byte + bytes a) → ∃ r ∈ b, isNul r = true)
    (hgap : Gap pre (readAll s (x ++ space :: y)).tokens.reverse
      (readAll s (x ++ space :: y)).comments) :
    ∃ s₁, s₁.place.byte = pre.length ∧ readAll s (x ++ space :: y) = readAll s₁ (space :: y) ∧
      readAll s (x ++ space :: (note ++ y)) = readAll s₁ (space :: (note ++ y)) := by
  induction hn : x.length using Nat.strongRecOn generalizing s x with
  | ind n ih =>
    by_cases hx : x = []
    · rw [hx] at hplace ⊢
      exact ⟨s, hplace, rfl, rfl⟩
    have hne (w : List Rune) : x ++ space :: w ≠ [] := by simp
    have hstep := readAll_step s (hne y)
    by_cases hlt : x.length < (piece (x ++ space :: y)).2
    · -- The piece would cover the space.
      have hcovers := hplace ▸ covers_of_lt (s := s) (y := y) hlt
      have hsuffix := suffix_readAll (s.pass (piece (x ++ space :: y)).1
        ((x ++ space :: y).take (piece (x ++ space :: y)).2))
        ((x ++ space :: y).drop (piece (x ++ space :: y)).2)
      rw [← hstep] at hsuffix
      rcases holds_space_of_piece hx hlt with hcomment | ⟨kind, htext, htoken⟩
      · rw [hcomment] at hsuffix
        exact absurd hcovers (hgap.outside_comments _ (hsuffix.2.subset List.mem_cons_self))
      · rw [htoken] at hsuffix
        exact absurd hcovers
          (hgap.outside_texts _ (List.mem_reverse.2 (hsuffix.1.subset List.mem_cons_self)) htext)
    · have hle := Nat.le_of_not_lt hlt
      have hclosed : startsWith ['/', '*'] x = true → comment (x ++ space :: y) = 0 →
          ∃ r ∈ x.drop 2, isNul r = true := by
        intro hstart hopen
        obtain ⟨k, m, x, rfl⟩ := eq_of_startsWith hstart
        obtain ⟨t, u, hsuffix, hcomment, hbyte⟩ := openComment_readAll (s := s) hopen
        have hchain := (List.isChain_reverse.1 hgap.closed).suffix hsuffix
        have hbefore : u.span.startByte ≤ pre.length := by
          rw [hbyte, ← hplace, bytes_cons]
          exact Nat.add_le_add_left (Nat.le_add_right ..) _
        have hzero := (List.isChain_cons_cons.1 hchain).1 hbefore hcomment
        rw [hbyte] at hzero
        obtain ⟨r, hr, hisNul⟩ := hnul [⟨some '/', k⟩] (⟨some '*', m⟩ :: x) rfl hzero
        rcases List.mem_cons.1 hr with rfl | hr
        · cases hisNul
        · exact ⟨r, hr, hisNul⟩
      have hpiece := piece_of_space hx hclosed hle
      have hstep' := readAll_step s (hne (note ++ y))
      rw [hpiece] at hstep'
      rw [List.take_append_of_le_length hle, List.drop_append_of_le_length hle] at hstep hstep'
      have hpos := piece_pos (x ++ space :: y)
      have hlength := List.length_pos_iff.2 hx
      rw [hstep] at hgap ⊢
      rw [hstep']
      refine ih _ ?_ (x.drop (piece (x ++ space :: y)).2) _ ?_ ?_ hgap rfl
      · rw [List.length_drop]
        omega
      · rw [byte_pass, Nat.add_assoc, ← bytes_append, List.take_append_drop, hplace]
      · intro a b hab hzero
        rw [byte_pass, Nat.add_assoc, ← bytes_append] at hzero
        refine hnul (x.take (piece (x ++ space :: y)).2 ++ a) b ?_ hzero
        rw [List.append_assoc, ← hab, List.take_append_drop]

/-! ## After the space -/

/-- Whether two states have read the same tokens, at places of their own. -/
structure State.Alike (s s' : State) : Prop where
  tokens : s.tokens.map (Token.ranked 0) = s'.tokens.map (Token.ranked 0)
  newline : s.newline.isSome = s'.newline.isSome

/-- The rank that a comment has if it comes next. -/
def State.rank (s : State) : Nat :=
  Rank.gap s.tokens.length s.newline.isSome

namespace State.Alike

variable {s s' : State}

/-- Comments in states alike have the same ranks. -/
theorem rank_eq (h : s.Alike s') : s.rank = s'.rank := by
  have hlength := congrArg List.length h.tokens
  rw [List.length_map, List.length_map] at hlength
  rw [State.rank, State.rank, hlength, h.newline]

/-- States that are alike stay so. -/
theorem pass (h : s.Alike s') (p : Piece) (rs : List Rune) :
    (s.pass p rs).Alike (s'.pass p rs) := by
  cases p with
  | blank =>
    refine ⟨h.tokens, ?_⟩
    by_cases hline : rs.any (·.is '\n') <;> simp [State.pass, State.blank, hline, h.newline]
  | comment => exact ⟨h.tokens, h.newline⟩
  | token kind =>
    have hnewline : s.newline.map (fun _ => Rank.newline 0) =
        s'.newline.map (fun _ => Rank.newline 0) := by
      have hsome := h.newline
      cases hs : s.newline <;> cases hs' : s'.newline <;> simp_all
    refine ⟨?_, rfl⟩
    simp [State.pass, State.token, Token.ranked, h.tokens, hnewline]

end State.Alike

/-- Ranks do not go down. -/
theorem rank_le_pass (s : State) (p : Piece) (rs : List Rune) : s.rank ≤ (s.pass p rs).rank := by
  cases p with
  | blank =>
    cases hs : s.newline <;> by_cases hline : rs.any (·.is '\n') <;>
      simp [State.pass, State.blank, State.rank, Rank.gap, hline, hs]
  | comment => exact Nat.le_refl _
  | token kind =>
    simp only [State.pass, State.token, State.rank, Rank.gap, List.length_cons]
    split <;> omega

/-- From states that are alike, a text is read in the same way. -/
theorem readAll_alike (place : Nat) (s : State) (rs : List Rune) : ∀ {s' : State}, s.Alike s' →
    (readAll s rs).Alike (readAll s' rs) ∧
      ∃ new new', (readAll s rs).comments = new ++ s.comments ∧
        (readAll s' rs).comments = new' ++ s'.comments ∧
        Noted place new.reverse new'.reverse ∧ ∀ c ∈ new', s.rank ≤ c.rank := by
  induction s, rs using readAll_induction with
  | nil s => exact fun h => ⟨h, [], [], rfl, rfl, .nil, nofun⟩
  | step s rs hrs ih =>
    intro s' h
    rw [readAll_step s hrs, readAll_step s' hrs]
    obtain ⟨halike, new, new', hnew, hnew', hnoted, hrank⟩ := ih (h.pass _ _)
    have hle := rank_le_pass s (piece rs).1 (rs.take (piece rs).2)
    refine ⟨halike, ?_⟩
    rw [hnew, hnew']
    cases hp : (piece rs).1 with
    | blank | token =>
      rw [hp] at hle hrank
      exact ⟨new, new', rfl, rfl, hnoted, fun c hc => Nat.le_trans hle (hrank c hc)⟩
    | comment =>
      rw [hp] at hle hrank
      refine ⟨new ++ [_], new' ++ [_], List.append_cons .., List.append_cons .., ?_, ?_⟩
      · rw [List.reverse_append, List.reverse_append]
        exact .cons rfl h.rank_eq hnoted
      · intro c hc
        rcases List.mem_append.1 hc with hc | hc
        · exact Nat.le_trans hle (hrank c hc)
        · rw [List.mem_singleton.1 hc]
          exact Nat.le_of_eq h.rank_eq

/-- After a space, a comment is read for itself. -/
theorem readAll_space_note (s : State) (y : List Rune) :
    readAll s (space :: (note ++ y)) =
      readAll (((s.blank [space]).comment (note.take 7)).blank [space]) y := by
  have hblank (s : State) (y : List Rune) :
      readAll s (space :: y) = readAll (s.blank [space]) y := readAll_step s (List.cons_ne_nil _ _)
  have hcomment : piece (note ++ y) = (.comment, 7) := rfl
  rw [hblank, readAll_step _ (by simp [note]), hcomment]
  exact hblank ..

/-- A text with a comment put in at a gap. -/
theorem readAll_note {pre : List UInt8} {x y : List Rune} {s : State}
    (hplace : s.place.byte + bytes x = pre.length)
    (hnul : ∀ a b, x = a ++ b → 0 ∈ pre.drop (s.place.byte + bytes a) → ∃ r ∈ b, isNul r = true)
    (hgap : Gap pre (readAll s (x ++ space :: y)).tokens.reverse
      (readAll s (x ++ space :: y)).comments) :
    (readAll s (x ++ space :: y)).Alike (readAll s (x ++ space :: (note ++ y))) ∧
      Noted (pre.length + 1) (readAll s (x ++ space :: y)).comments.reverse
        (readAll s (x ++ space :: (note ++ y))).comments.reverse := by
  obtain ⟨s₁, hs₁, hplain, hnote⟩ := readAll_to_space x s hplace hnul hgap
  have hspace : readAll s₁ (space :: y) = readAll (s₁.blank [space]) y :=
    readAll_step s₁ (List.cons_ne_nil _ _)
  rw [hplain, hnote, hspace, readAll_space_note]
  have hstates : (s₁.blank [space]).Alike
      (((s₁.blank [space]).comment (note.take 7)).blank [space]) := ⟨rfl, rfl⟩
  obtain ⟨halike, new, new', hnew, hnew', hnoted, hrank⟩ :=
    readAll_alike (pre.length + 1) _ y hstates
  refine ⟨halike, ?_⟩
  rw [hnew, hnew', List.reverse_append, List.reverse_append]
  show Noted (pre.length + 1) (s₁.comments.reverse ++ _) ((_ :: s₁.comments).reverse ++ _)
  rw [List.reverse_cons, List.append_assoc]
  refine Noted.append_left _ (.extra ?_ ?_ hnoted)
  · show (s₁.blank [space]).place.byte = pre.length + 1
    rw [← hs₁]
    exact byte_afterAll s₁.place [space]
  · intro c hc
    exact hrank c (List.mem_reverse.1 hc)

/-! ## Whole sources -/

/-- The bytes that are put in for a space. -/
def noteBytes : List UInt8 :=
  " /* c */ ".toUTF8.toList

/-- The bytes of a comment between spaces. -/
theorem noteBytes_eq : noteBytes = [0x20, 0x2f, 0x2a, 0x20, 0x63, 0x20, 0x2a, 0x2f, 0x20] := by
  decide +kernel

/-- A source is decoded up to a space and from there on. -/
theorem decode_space (pre post : List UInt8) :
    decode (pre ++ 0x20 :: post) = decode pre ++ space :: decode post :=
  decodeFrom_append (by decide) post pre 0 (Nat.zero_le _)

/-- What is put in for a space is decoded for itself. -/
theorem decode_noteBytes (pre post : List UInt8) :
    decode (pre ++ (noteBytes ++ post)) = decode pre ++ space :: (note ++ decode post) := by
  rw [noteBytes_eq]
  exact decode_space pre _

/-- A byte order mark is no space. -/
theorem opened_space (x y : List Rune) :
    opened (x ++ space :: y) = ((opened x).1, (opened x).2 ++ space :: y) := by
  cases x with
  | nil => rfl
  | cons r x => by_cases hr : r.is byteOrderMark <;> simp [opened, hr]

/-- No byte is lost at the start of a text. -/
theorem exists_opened (x : List Rune) :
    ∃ before, x = before ++ (opened x).2 ∧ (opened x).1.place.byte = bytes before := by
  cases x with
  | nil => exact ⟨[], rfl, rfl⟩
  | cons r x =>
    rw [opened]
    split
    · refine ⟨[r], rfl, ?_⟩
      have hafter : (Place.start.after r).byte = 0 + bytes [r] := byte_afterAll Place.start [r]
      rwa [Nat.zero_add] at hafter
    · exact ⟨[], rfl, rfl⟩

/-- A byte that is zero is a character by itself. -/
theorem exists_isNul_of_decode {bs : List UInt8} {a b : List Rune} (h : decode bs = a ++ b)
    (hzero : 0 ∈ bs.drop (bytes a)) : ∃ r ∈ b, isNul r = true := by
  obtain ⟨p, q, hsplit⟩ := List.append_of_mem hzero
  have hbs : bs = (bs.take (bytes a) ++ p) ++ 0 :: q := by
    rw [List.append_assoc, ← hsplit, List.take_append_drop]
  have hlength : bytes a ≤ bs.length := by
    have hall : bytes (decode bs) = bs.length := bytes_decodeFrom bs 0 (Nat.zero_le _)
    rw [h, bytes_append] at hall
    omega
  have hbytes : bytes (decode (bs.take (bytes a) ++ p)) = bytes a + p.length := by
    have hall : bytes (decode (bs.take (bytes a) ++ p)) = _ := bytes_decodeFrom _ 0 (Nat.zero_le _)
    rw [hall, List.length_append, List.length_take, Nat.min_eq_left hlength]
  have hdecode : decode (bs.take (bytes a) ++ p ++ 0 :: q) =
      decode (bs.take (bytes a) ++ p) ++ ⟨some (Char.ofNat 0), 1⟩ :: decode q :=
    decodeFrom_append (by decide) q _ 0 (Nat.zero_le _)
  rw [← hbs, h] at hdecode
  rcases List.append_eq_append_iff.1 hdecode with ⟨e, -, hb⟩ | ⟨e, ha, hb⟩
  · exact ⟨_, hb ▸ List.mem_append_right e List.mem_cons_self, rfl⟩
  · -- The runes before the one for zero take no more bytes than `a`.
    have he : bytes a = bytes a + p.length + bytes e := by
      rw [← hbytes, ← bytes_append, ← ha]
    cases e with
    | nil => exact ⟨_, hb ▸ List.mem_cons_self, rfl⟩
    | cons r e =>
      obtain ⟨rfl, -⟩ := List.cons.inj hb
      rw [bytes_cons] at he
      simp only at he
      omega

/-- A gap stays one if the end of the source is not looked at. -/
theorem gap_before_eof {pre : List UInt8} {s : State}
    (h : Gap pre (s.token .eof []).tokens.reverse (s.token .eof []).comments.reverse) :
    Gap pre s.tokens.reverse s.comments := by
  have htokens : (s.token .eof []).tokens.reverse = s.tokens.reverse ++ _ := List.reverse_cons ..
  rw [htokens] at h
  exact {
    outside_texts := fun t ht => h.outside_texts t (List.mem_append_left _ ht)
    outside_comments := fun c hc => h.outside_comments c (List.mem_reverse.2 hc)
    closed := h.closed.left_of_append }

/-- A comment that is put in for a space changes nothing but the places of tokens and comments. -/
theorem lex_note {pre post : List UInt8}
    (hgap : Gap pre (lex (pre ++ 0x20 :: post)).1 (lex (pre ++ 0x20 :: post)).2) :
    (lex (pre ++ (noteBytes ++ post))).1.map (Token.ranked 0) =
        (lex (pre ++ 0x20 :: post)).1.map (Token.ranked 0) ∧
      Noted (pre.length + 1) (lex (pre ++ 0x20 :: post)).2
        (lex (pre ++ (noteBytes ++ post))).2 := by
  obtain ⟨before, hdecode, hbyte⟩ := exists_opened (decode pre)
  have hplace :
      (opened (decode pre)).1.place.byte + bytes (opened (decode pre)).2 = pre.length := by
    rw [hbyte, ← bytes_append, ← hdecode]
    exact bytes_decodeFrom pre 0 (Nat.zero_le _)
  have hnul (a b : List Rune) (hab : (opened (decode pre)).2 = a ++ b)
      (hzero : 0 ∈ pre.drop ((opened (decode pre)).1.place.byte + bytes a)) :
      ∃ r ∈ b, isNul r = true := by
    rw [hab, ← List.append_assoc] at hdecode
    rw [hbyte, ← bytes_append] at hzero
    exact exists_isNul_of_decode hdecode hzero
  simp only [lex, decode_space, decode_noteBytes, opened_space] at hgap ⊢
  have hnote := readAll_note hplace hnul (gap_before_eof hgap)
  have heof := (hnote.1.pass (.token .eof) []).tokens
  refine ⟨?_, hnote.2⟩
  rw [List.map_reverse, List.map_reverse]
  exact congrArg List.reverse heof.symm

-- A comment that is open is closed by what is put in.
example : (lex "a /* b d".toUTF8.toList).1.length = 6 ∧
    (lex "a /* b /* c */ d".toUTF8.toList).1.length = 3 := by
  decide +kernel

end Lexer

end Go

end GoSurvey
