import CommandManual.Console.Markup
import Mathlib.Data.List.TakeWhile

/-!
Escaped text. A text that is escaped has no tags when it is read as markup, so it can be
shown whatever it says. The brackets of a text stay in their order when it is escaped, and
every bracket that would open a tag gets an odd number of backslashes before it.
-/

namespace CommandManual.Console

/-! ### Tags -/

def isBracket (c : Char) : Bool := c == ']' || c == '['

/-- Whether a text has a tag in it only depends on the first bracket. -/
theorem tagText?_eq {c : Char} {r : Text} (start : isTagStart c = true) :
    tagText? (c :: r) =
      if r.find? isBracket = some ']' then some (c :: r.takeWhile fun d => !isBracket d)
      else none := by
  have body : (r.takeWhile fun d => d != ']' && d != '[') =
      r.takeWhile fun d => !isBracket d := by
    congr 1
    funext d
    simp [isBracket, bne]
  have rest : ((r.takeWhile fun d => !isBracket d) ++ r.dropWhile fun d => !isBracket d).drop
      (r.takeWhile fun d => !isBracket d).length = r.dropWhile fun d => !isBracket d :=
    List.drop_left
  rw [List.takeWhile_append_dropWhile] at rest
  rw [tagText?, if_pos start]
  simp only [body, rest, List.find?_eq_head?_dropWhile_not]
  rcases r.dropWhile fun d => !isBracket d with _ | ⟨d, rest⟩
  · simp
  · by_cases closing : d = ']'
    · simp [closing]
    · simp only [List.head?_cons, Option.some.injEq, closing, if_false]
      split
      · rename_i same
        exact absurd (List.cons.inj same).1 closing
      · rfl

theorem tagText?_of_not_start {c : Char} {r : Text} (start : isTagStart c = false) :
    tagText? (c :: r) = none := by
  simp [tagText?, start]

theorem tagAt?_slash (r : Text) :
    tagAt? ('\\' :: r) = (tagAt? r).map fun (slashes, tag) => (slashes + 1, tag) := by
  unfold tagAt?
  simp only [List.takeWhile_cons, beq_self_eq_true, if_true, List.length_cons,
    List.drop_succ_cons]
  split <;> simp [Function.comp_def]

theorem tagAt?_bracket (r : Text) : tagAt? ('[' :: r) = (tagText? r).map fun tag => (0, tag) := by
  simp [tagAt?]

theorem tagAt?_other {c : Char} (r : Text) (slash : c ≠ '\\') (bracket : c ≠ '[') :
    tagAt? (c :: r) = none := by
  simp only [tagAt?, List.takeWhile_cons, beq_iff_eq, slash, if_false, List.length_nil,
    List.drop_zero]
  split
  · rename_i same
    exact absurd (List.cons.inj same).1 bracket
  · rfl

theorem tagAt?_slashes (slashes : Nat) (r : Text) :
    tagAt? (List.replicate slashes '\\' ++ '[' :: r) =
      (tagText? r).map fun tag => (slashes, tag) := by
  induction slashes with
  | zero => exact tagAt?_bracket r
  | succ slashes ih =>
      rw [List.replicate_succ, List.cons_append, tagAt?_slash, ih, Option.map_map]
      rfl

/-- What a tag is made of. -/
theorem exists_of_tagText? {t tag : Text} (h : tagText? t = some tag) :
    ∃ c body, tag = c :: body ∧ isTagStart c = true ∧ ∀ d ∈ body, isBracket d = false := by
  cases t with
  | nil => cases h
  | cons c r =>
      cases start : isTagStart c with
      | false =>
          rw [tagText?_of_not_start start] at h
          cases h
      | true =>
          rw [tagText?_eq start] at h
          split at h
          · cases h
            refine ⟨c, _, rfl, start, fun d inBody => ?_⟩
            simpa using List.mem_takeWhile_imp inBody
          · cases h

theorem exists_of_tagAt? {t tag : Text} {slashes : Nat} (h : tagAt? t = some (slashes, tag)) :
    ∃ r, t = List.replicate slashes '\\' ++ '[' :: r ∧ tagText? r = some tag := by
  induction t generalizing slashes with
  | nil => cases h
  | cons c r ih =>
      by_cases slash : c = '\\'
      · subst slash
        rw [tagAt?_slash, Option.map_eq_some_iff] at h
        obtain ⟨⟨fewer, tag⟩, h, ⟨⟩⟩ := h
        obtain ⟨rest, rfl, isTag⟩ := ih h
        exact ⟨rest, rfl, isTag⟩
      by_cases bracket : c = '['
      · subst bracket
        rw [tagAt?_bracket, Option.map_eq_some_iff] at h
        obtain ⟨tag, isTag, ⟨⟩⟩ := h
        exact ⟨r, rfl, isTag⟩
      · rw [tagAt?_other r slash bracket] at h
        cases h

/-- A tag is read as it is, whatever stands after it. -/
theorem tagText?_append {t tag : Text} (h : tagText? t = some tag) (rest : Text) :
    tagText? (tag ++ ']' :: rest) = some tag := by
  obtain ⟨c, body, rfl, start, inner⟩ := exists_of_tagText? h
  have unclosed : body.find? isBracket = none := List.find?_eq_none.mpr (by simpa using inner)
  have all : ∀ d ∈ body, (!isBracket d) = true := by simpa using inner
  rw [List.cons_append, tagText?_eq start, List.find?_append, unclosed]
  rw [List.takeWhile_append_of_pos all]
  simp [isBracket]

/-! ### Escaping -/

theorem escapeFrom_of_untagged {c : Char} {r : Text} (untagged : tagAt? (c :: r) = none) :
    escapeFrom 0 (c :: r) = c :: escapeFrom 0 r := by
  rw [escapeFrom, untagged]

variable {tail : Text}

theorem find?_isBracket_slashes (n : Nat) (r : Text) :
    (List.replicate n '\\' ++ r).find? isBracket = r.find? isBracket := by
  induction n with
  | zero => rfl
  | succ n ih => rw [List.replicate_succ, List.cons_append, List.find?_cons_of_neg (by decide), ih]

/-- The first bracket stays the first one. -/
theorem find?_isBracket_escapeFrom (slashes : ∀ c ∈ tail, c = '\\') (skip : Nat) (t : Text) :
    (escapeFrom skip t ++ tail).find? isBracket = (t.drop skip).find? isBracket := by
  fun_induction escapeFrom skip t with
  | case1 =>
      rw [List.nil_append, List.drop_nil, List.find?_nil, List.find?_eq_none]
      intro c isTail
      rw [slashes c isTail]
      decide
  | case2 skip c r ih => simpa using ih
  | case3 c r n tag found ih =>
      obtain ⟨rest, split, -⟩ := exists_of_tagAt? found
      rw [List.drop_zero, split, List.append_assoc, List.append_assoc, find?_isBracket_slashes,
        find?_isBracket_slashes]
      rfl
  | case4 c r untagged ih =>
      rw [List.drop_zero, List.cons_append, List.find?_cons, List.find?_cons, ih, List.drop_zero]

theorem tagText?_escapeFrom (slashes : ∀ c ∈ tail, c = '\\') {t : Text}
    (untagged : tagText? t = none) : tagText? (escapeFrom 0 t ++ tail) = none := by
  cases t with
  | nil =>
      cases tail with
      | nil => rfl
      | cons c rest =>
          rw [slashes c List.mem_cons_self]
          exact tagText?_of_not_start (by decide)
  | cons c r =>
      rw [escapeFrom]
      split
      · rename_i n tag found
        rw [List.replicate_succ]
        exact tagText?_of_not_start (by decide)
      · cases start : isTagStart c with
        | false => exact tagText?_of_not_start start
        | true =>
            rw [tagText?_eq start] at untagged
            rw [List.cons_append, tagText?_eq start, find?_isBracket_escapeFrom slashes,
              List.drop_zero]
            split at untagged
            · cases untagged
            · rename_i opening
              rw [if_neg opening]

theorem tagAt?_of_slashes (slashes : ∀ c ∈ tail, c = '\\') : tagAt? tail = none := by
  induction tail with
  | nil => rfl
  | cons c rest ih =>
      obtain ⟨slash, others⟩ := List.forall_mem_cons.mp slashes
      rw [slash, tagAt?_slash, ih others]
      rfl

theorem tagAt?_escapeFrom (slashes : ∀ c ∈ tail, c = '\\') {t : Text}
    (untagged : tagAt? t = none) : tagAt? (escapeFrom 0 t ++ tail) = none := by
  induction t with
  | nil => exact tagAt?_of_slashes slashes
  | cons c r ih =>
      rw [escapeFrom_of_untagged untagged, List.cons_append]
      by_cases slash : c = '\\'
      · subst slash
        rw [tagAt?_slash, Option.map_eq_none_iff] at untagged ⊢
        exact ih untagged
      by_cases bracket : c = '['
      · -- No tag follows, and escaping what follows makes none.
        subst bracket
        rw [tagAt?_bracket, Option.map_eq_none_iff] at untagged ⊢
        exact tagText?_escapeFrom slashes untagged
      · exact tagAt?_other _ slash bracket

/-! ### Reading -/

def Piece.IsPlain : Piece → Prop
  | plain _ => True
  | tag .. => False

theorem piecesFrom_skip (skip position : Nat) (held t : Text) :
    piecesFrom skip position held t = piecesFrom 0 (position + skip) held (t.drop skip) := by
  induction t generalizing skip position with
  | nil => cases skip <;> simp [piecesFrom]
  | cons c r ih =>
      cases skip with
      | zero => rfl
      | succ skip =>
          rw [piecesFrom, ih, List.drop_succ_cons]
          congr 1
          omega

theorem piecesFrom_of_untagged {c : Char} {r : Text} (untagged : tagAt? (c :: r) = none)
    (position : Nat) (held : Text) :
    piecesFrom 0 position held (c :: r) = piecesFrom 0 (position + 1) (c :: held) r := by
  rw [piecesFrom, untagged]

/-- A tag with an odd number of backslashes before it is plain. -/
theorem plain_piecesFrom_escaped {n : Nat} {tag rest : Text}
    (isTag : tagText? (tag ++ ']' :: rest) = some tag)
    (plain : ∀ position, ∀ p ∈ piecesFrom 0 position [] rest, p.IsPlain) (position : Nat)
    (held : Text) :
    ∀ p ∈ piecesFrom 0 position held
      (List.replicate (2 * n + 1) '\\' ++ '[' :: (tag ++ ']' :: rest)), p.IsPlain := by
  have found := tagAt?_slashes (2 * n + 1) (tag ++ ']' :: rest)
  have after : (List.replicate (2 * n) '\\' ++ '[' :: (tag ++ ']' :: rest)).drop
      (2 * n + 1 + tag.length + 1) = rest := by
    have split : List.replicate (2 * n) '\\' ++ '[' :: (tag ++ ']' :: rest) =
        (List.replicate (2 * n) '\\' ++ '[' :: (tag ++ [']'])) ++ rest := by simp
    rw [split]
    exact List.drop_left' (by simp; omega)
  rw [isTag, Option.map_some, List.replicate_succ, List.cons_append] at found
  rw [List.replicate_succ, List.cons_append, piecesFrom, found]
  dsimp only
  -- The odd backslash makes the tag plain, and the others are shown in pairs before it.
  rw [if_pos (by omega : (2 * n + 1) % 2 = 1), piecesFrom_skip, after]
  intro p isPiece
  simp only [List.mem_append, List.mem_cons] at isPiece
  rcases isPiece with (isPiece | isPiece) | rfl | isPiece
  · split at isPiece
    · cases isPiece
    · rw [List.mem_singleton.mp isPiece]
      trivial
  · split at isPiece
    · cases isPiece
    · rw [List.mem_singleton.mp isPiece]
      trivial
  · trivial
  · exact plain _ p isPiece

theorem plain_piecesFrom_slashes (slashes : ∀ c ∈ tail, c = '\\') (position : Nat) (held : Text) :
    ∀ p ∈ piecesFrom 0 position held tail, p.IsPlain := by
  induction tail generalizing position held with
  | nil =>
      rw [piecesFrom]
      split
      · simp
      · simp [Piece.IsPlain]
  | cons c rest ih =>
      rw [piecesFrom_of_untagged (tagAt?_of_slashes slashes)]
      exact ih (List.forall_mem_cons.mp slashes).2 _ _

theorem plain_piecesFrom_escapeFrom (slashes : ∀ c ∈ tail, c = '\\') (skip : Nat) (t : Text)
    (position : Nat) (held : Text) :
    ∀ p ∈ piecesFrom 0 position held (escapeFrom skip t ++ tail), p.IsPlain := by
  fun_induction escapeFrom skip t generalizing position held with
  | case1 => exact plain_piecesFrom_slashes slashes position held
  | case2 skip c r ih => exact ih position held
  | case3 c r n tag found ih =>
      obtain ⟨rest, -, isTag⟩ := exists_of_tagAt? found
      have escaped := plain_piecesFrom_escaped (n := n) (tagText?_append isTag _)
        (fun position => ih position []) position held
      simpa using escaped
  | case4 c r untagged ih =>
      have still : tagAt? (escapeFrom 0 (c :: r) ++ tail) = none :=
        tagAt?_escapeFrom slashes untagged
      rw [escapeFrom_of_untagged untagged, List.cons_append] at still
      rw [List.cons_append, piecesFrom_of_untagged still]
      exact ih _ _

theorem exists_escape_eq (t : Text) :
    ∃ tail, (∀ c ∈ tail, c = '\\') ∧ escape t = escapeFrom 0 t ++ tail := by
  unfold escape
  dsimp only
  split
  · exact ⟨[], by simp, by simp⟩
  · exact ⟨['\\'], by simp, rfl⟩
  · exact ⟨[], by simp, by simp⟩

/-- Escaped text has no tags. -/
theorem plain_piecesFrom_escape (t : Text) (position : Nat) (held : Text) :
    ∀ p ∈ piecesFrom 0 position held (escape t), p.IsPlain := by
  obtain ⟨tail, slashes, split⟩ := exists_escape_eq t
  rw [split]
  exact plain_piecesFrom_escapeFrom slashes 0 t position held

theorem exists_showPieces (before : Styled) (openTags : List OpenTag) {pieces : List Piece}
    (plain : ∀ p ∈ pieces, p.IsPlain) :
    ∃ styled, showPieces before openTags pieces = .ok styled := by
  induction pieces generalizing before with
  | nil => exact ⟨_, rfl⟩
  | cons p rest ih =>
      obtain ⟨isPlain, others⟩ := List.forall_mem_cons.mp plain
      cases p with
      | plain t => exact ih _ others
      | tag => cases isPlain

end CommandManual.Console
