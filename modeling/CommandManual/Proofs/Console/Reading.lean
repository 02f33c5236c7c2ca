import CommandManual.Proofs.Console.Markup
import CommandManual.Proofs.Except
import CommandManual.Proofs.Text.Search

/-!
Which texts are shown as they are when they are read as markup. Every tag that is read, and
every backslash that is taken from a bracket, leaves fewer brackets and backslashes to show
than there were before, so nothing but an emoji code could make up for it. Texts with at most
one colon have no emoji codes.
-/

namespace CommandManual.Console

structure Unmarked (t : Text) : Prop where
  untagged : ∀ s, s <:+ t → tagAt? s = none
  unescaped : ¬ ['\\', '['] <:+: t

/-! ### Texts without marks -/

theorem piecesFrom_of_forall_untagged {t : Text} (untagged : ∀ s, s <:+ t → tagAt? s = none)
    (position : Nat) (held : Text) :
    piecesFrom 0 position held t =
      if (held.reverse ++ t).isEmpty then [] else [.plain (held.reverse ++ t)] := by
  induction t generalizing position held with
  | nil =>
      rw [piecesFrom, List.append_nil]
      simp
  | cons c r ih =>
      have later : ∀ s, s <:+ r → tagAt? s = none := fun s hs =>
        untagged s (hs.trans (List.suffix_cons c r))
      rw [piecesFrom_of_untagged (untagged _ List.suffix_rfl), ih later, List.reverse_cons,
        List.append_assoc, List.singleton_append]

theorem unescapeBrackets_of_unescaped {t : Text} (unescaped : ¬ ['\\', '['] <:+: t) :
    unescapeBrackets t = t := by
  fun_induction unescapeBrackets t with
  | case1 r => exact absurd (List.prefix_append ['\\', '['] r).isInfix unescaped
  | case2 c r _ ih =>
      have later : ¬ ['\\', '['] <:+: r := fun within =>
        unescaped (within.trans (List.suffix_cons c r).isInfix)
      rw [ih later]
  | case3 => rfl

theorem readMarkup_of_unmarked {t : Text} (unmarked : Unmarked t) :
    readMarkup t = .ok (Styled.ofText (shown t)) := by
  rw [readMarkup]
  split
  · rename_i bracket
    have nonempty : t.isEmpty = false := by
      cases t with
      | nil => cases bracket
      | cons c r => rfl
    rw [piecesFrom_of_forall_untagged unmarked.untagged, List.reverse_nil, List.nil_append,
      nonempty, if_neg Bool.false_ne_true, showPieces, showPieces,
      unescapeBrackets_of_unescaped unmarked.unescaped]
    rfl
  · rfl

/-! ### What pieces say -/

theorem exists_append_of_tagText? {t tag : Text} (h : tagText? t = some tag) :
    ∃ rest, t = tag ++ ']' :: rest := by
  cases t with
  | nil => cases h
  | cons c r =>
      rw [tagText?] at h
      split at h
      · dsimp only at h
        split at h
        · rename_i rest closed
          obtain rfl := Option.some.inj h
          obtain ⟨after, parts⟩ := List.takeWhile_prefix (l := r) fun d => d != ']' && d != '['
          have same : ((r.takeWhile fun d => d != ']' && d != '[') ++ after).drop
              (r.takeWhile fun d => d != ']' && d != '[').length = after := List.drop_left
          rw [parts, closed] at same
          exact ⟨rest, by rw [List.cons_append, same, parts]⟩
        · cases h
      · cases h

def Piece.content : Piece → Text
  | plain t => t
  | tag .. => []

def contents (pieces : List Piece) : Text := pieces.flatMap Piece.content

/-- What is left of a text when its tags are read: an even number of backslashes before a tag
is halved and the tag is gone; of an odd number the last one goes and the tag stays. -/
inductive Leaves : Text → Text → Prop
  | nil : Leaves [] []
  | plain {c : Char} {r s : Text} : tagAt? (c :: r) = none → Leaves r s → Leaves (c :: r) (c :: s)
  | tag {n : Nat} {tag rest s : Text} : tagText? (tag ++ ']' :: rest) = some tag →
      Leaves rest s → Leaves (List.replicate n '\\' ++ '[' :: (tag ++ ']' :: rest))
        (List.replicate (n / 2) '\\' ++ (if n % 2 = 1 then '[' :: tag ++ [']'] else []) ++ s)

theorem contents_piecesFrom_tag {c : Char} {r tag rest : Text} {n : Nat}
    (found : tagAt? (c :: r) = some (n, tag))
    (split : c :: r = List.replicate n '\\' ++ '[' :: (tag ++ ']' :: rest)) (position : Nat)
    (held : Text) :
    ∃ position', contents (piecesFrom 0 position held (c :: r)) =
      held.reverse ++ (List.replicate (n / 2) '\\' ++
        (if n % 2 = 1 then '[' :: tag ++ [']'] else []) ++
          contents (piecesFrom 0 position' [] rest)) := by
  have after : r.drop (n + tag.length + 1) = rest := by
    have whole : (c :: r).drop (n + tag.length + 2) = rest := by
      rw [split, show List.replicate n '\\' ++ '[' :: (tag ++ ']' :: rest) =
        (List.replicate n '\\' ++ '[' :: (tag ++ [']'])) ++ rest by simp]
      exact List.drop_left' (by simp; omega)
    exact whole
  refine ⟨position + 1 + (n + tag.length + 1), ?_⟩
  rw [piecesFrom, found]
  dsimp only
  rw [piecesFrom_skip, after]
  have start : contents (if held.isEmpty then [] else [Piece.plain held.reverse]) =
      held.reverse := by
    cases held <;> simp [contents, Piece.content]
  have literal : contents (if n < 2 then [] else [Piece.plain (List.replicate (n / 2) '\\')]) =
      List.replicate (n / 2) '\\' := by
    split
    · rw [Nat.div_eq_of_lt (by assumption)]
      rfl
    · simp [contents, Piece.content]
  have here : Piece.content (if n % 2 = 1 then Piece.plain ('[' :: tag ++ [']'])
      else Piece.tag (position + n) tag) = if n % 2 = 1 then '[' :: tag ++ [']'] else [] := by
    split <;> rfl
  rw [contents, List.flatMap_append, List.flatMap_append, ← contents, start, ← contents, literal,
    List.flatMap_cons, here, ← contents]
  simp only [List.append_assoc]

/-- The pieces of a text say what its tags leave. -/
theorem exists_leaves (t : Text) :
    ∃ s, Leaves t s ∧ ∀ position held,
      contents (piecesFrom 0 position held t) = held.reverse ++ s := by
  induction length : t.length using Nat.strong_induction_on generalizing t with
  | _ size ih =>
    cases t with
    | nil =>
        refine ⟨[], .nil, fun position held => ?_⟩
        rw [piecesFrom]
        cases held <;> simp [contents, Piece.content]
    | cons c r =>
        rw [List.length_cons] at length
        cases found : tagAt? (c :: r) with
        | none =>
            obtain ⟨s, leaves, told⟩ := ih r.length (by omega) r rfl
            refine ⟨c :: s, .plain found leaves, fun position held => ?_⟩
            rw [piecesFrom_of_untagged found, told, List.reverse_cons, List.append_assoc,
              List.singleton_append]
        | some taken =>
            obtain ⟨n, tag⟩ := taken
            obtain ⟨inner, split, isTag⟩ := exists_of_tagAt? found
            obtain ⟨rest, rfl⟩ := exists_append_of_tagText? isTag
            have shorter := congrArg List.length split
            simp only [List.length_cons, List.length_append, List.length_replicate] at shorter
            obtain ⟨s, leaves, told⟩ := ih rest.length (by omega) rest rfl
            have left := Leaves.tag (n := n) isTag leaves
            rw [← split] at left
            refine ⟨_, left, fun position held => ?_⟩
            obtain ⟨position', whole⟩ := contents_piecesFrom_tag found split position held
            rw [whole, told, List.reverse_nil, List.nil_append]

/-! ### Brackets and backslashes -/

def marks (t : Text) : Nat := t.countP fun c => c == '[' || c == '\\'

theorem marks_append (s t : Text) : marks (s ++ t) = marks s + marks t := List.countP_append

theorem marks_replicate (n : Nat) : marks (List.replicate n '\\') = n := by
  simp [marks, List.countP_replicate]

theorem marks_blanks (n : Nat) : marks (blanks n) = 0 := by
  simp [marks, blanks, List.countP_replicate]

theorem marks_bracket (t : Text) : marks ('[' :: t) = marks t + 1 := by simp [marks]

theorem marks_slash (t : Text) : marks ('\\' :: t) = marks t + 1 := by simp [marks]

theorem marks_cons_le (c : Char) {s t : Text} (h : marks s ≤ marks t) :
    marks (c :: s) ≤ marks (c :: t) := by
  rw [marks, marks, List.countP_cons, List.countP_cons]
  exact Nat.add_le_add_right h _

theorem marks_cons_lt (c : Char) {s t : Text} (h : marks s < marks t) :
    marks (c :: s) < marks (c :: t) := by
  rw [marks, marks, List.countP_cons, List.countP_cons]
  exact Nat.add_lt_add_right h _

theorem marks_unescapeBrackets_le (t : Text) : marks (unescapeBrackets t) ≤ marks t := by
  fun_induction unescapeBrackets t with
  | case1 r ih =>
      rw [marks_bracket, marks_slash, marks_bracket]
      omega
  | case2 c r _ ih => exact marks_cons_le c ih
  | case3 => exact Nat.le_refl _

theorem marks_unescapeBrackets_lt {t : Text} (escaped : ['\\', '['] <:+: t) :
    marks (unescapeBrackets t) < marks t := by
  fun_induction unescapeBrackets t with
  | case1 r ih =>
      have rest := marks_unescapeBrackets_le r
      rw [marks_bracket, marks_slash, marks_bracket]
      omega
  | case2 c r other ih =>
      apply marks_cons_lt
      rcases List.infix_cons_iff.mp escaped with front | later
      · obtain ⟨rest, same⟩ := front
        obtain ⟨rfl, rfl⟩ := List.cons.inj same
        exact absurd rfl (other rest rfl)
      · exact ih later
  | case3 => cases List.infix_nil.mp escaped

section Leaves

variable {t s : Text}

/-- A tag that is read takes its bracket, or one of the backslashes before it. -/
theorem marks_tag_lt {n : Nat} (tag : Text) {rest : Text} (h : marks s ≤ marks rest) :
    marks (List.replicate (n / 2) '\\' ++ (if n % 2 = 1 then '[' :: tag ++ [']'] else []) ++ s) <
      marks (List.replicate n '\\' ++ '[' :: (tag ++ ']' :: rest)) := by
  have whole : marks (List.replicate n '\\' ++ '[' :: (tag ++ ']' :: rest)) =
      n + (marks tag + marks rest + 1) := by
    rw [marks_append, marks_replicate, marks_bracket, marks_append]
    simp [marks]
  rw [whole, marks_append, marks_append, marks_replicate]
  split
  · have kept : marks ('[' :: tag ++ [']']) = marks tag + 1 := by
      rw [List.cons_append, marks_bracket, marks_append]
      simp [marks]
    omega
  · have none : marks [] = 0 := rfl
    omega

theorem Leaves.marks_le (h : Leaves t s) : marks s ≤ marks t := by
  induction h with
  | nil => exact Nat.le_refl _
  | plain _ _ ih => exact marks_cons_le _ ih
  | tag _ _ ih => exact (marks_tag_lt _ ih).le

theorem Leaves.marks_lt (h : Leaves t s) (tagged : ∃ r, r <:+ t ∧ tagAt? r ≠ none) :
    marks s < marks t := by
  induction h with
  | nil =>
      obtain ⟨r, within, found⟩ := tagged
      rw [List.suffix_nil.mp within] at found
      exact absurd rfl found
  | @plain c r s untagged leaves ih =>
      obtain ⟨r', within, found⟩ := tagged
      apply marks_cons_lt
      rcases List.suffix_cons_iff.mp within with rfl | within
      · exact absurd untagged found
      · exact ih ⟨r', within, found⟩
  | tag _ leaves _ => exact marks_tag_lt _ leaves.marks_le

theorem Leaves.sublist (h : Leaves t s) : s.Sublist t := by
  induction h with
  | nil => exact List.Sublist.refl _
  | plain _ _ ih => exact ih.cons_cons _
  | @tag n tag rest s _ _ ih =>
      rw [show List.replicate n '\\' ++ '[' :: (tag ++ ']' :: rest) =
        List.replicate n '\\' ++ ('[' :: tag ++ [']']) ++ rest by simp]
      refine ((List.replicate_sublist_replicate _).mpr (Nat.div_le_self n 2)).append ?_ |>.append ih
      split
      · exact List.Sublist.refl _
      · exact List.nil_sublist _

end Leaves

/-! ### Texts without codes -/

def Codeless (t : Text) : Prop := t.count ':' ≤ 1

theorem Codeless.of_sublist {s t : Text} (h : s.Sublist t) (codeless : Codeless t) : Codeless s :=
  (h.count_le ':').trans codeless

theorem emojiCode?_of_colonless {t : Text} (colonless : ':' ∉ t) : emojiCode? t = none := by
  induction t with
  | nil => rfl
  | cons c r ih =>
      have unended : ∀ form ∈ emojiForms, ¬ Text.startsWith form.1 (c :: r) = true := by
        rintro ⟨ending, selector⟩ form start
        have within : ':' ∈ ending := by
          simp only [emojiForms, List.mem_cons, List.not_mem_nil, or_false, Prod.mk.injEq] at form
          rcases form with ⟨rfl, -⟩ | ⟨rfl, -⟩ <;> decide
        exact colonless ((Text.startsWith_eq_true_iff.mp start).subset within)
      rw [List.mem_cons, not_or] at colonless
      rw [emojiCode?, List.find?_eq_none.mpr]
      · dsimp only
        rw [if_neg (Ne.symm colonless.1), ih colonless.2]
        split <;> rfl
      · exact unended

theorem replaceCodes_of_colonless (named : Text → Option Text) {t : Text}
    (colonless : ':' ∉ t) : replaceCodes named 0 t = t := by
  induction t with
  | nil => rfl
  | cons c r ih =>
      rw [List.mem_cons, not_or] at colonless
      obtain ⟨other, later⟩ := colonless
      rw [replaceCodes, if_neg (Ne.symm other), ih later]

theorem replaceCodes_of_codeless (named : Text → Option Text) {t : Text}
    (codeless : Codeless t) : replaceCodes named 0 t = t := by
  induction t with
  | nil => rfl
  | cons c r ih =>
      rw [replaceCodes]
      split
      · rename_i colon
        have later : ':' ∉ r := by
          rw [← List.count_eq_zero]
          rw [Codeless, colon, List.count_cons_self] at codeless
          omega
        rw [emojiCode?_of_colonless later]
        dsimp only
        rw [replaceCodes_of_colonless named later]
      · rw [ih (codeless.of_sublist (List.sublist_cons_self c r))]

theorem shown_of_codeless {t : Text} (codeless : Codeless t) :
    shown t = t.filter fun c => !isHidden c := by
  rw [shown, replaceEmoji, replaceCodes_of_codeless emoji? codeless]

theorem marks_le_of_sublist {s t : Text} (h : s.Sublist t) : marks s ≤ marks t := h.countP_le

theorem marks_shown_le {t : Text} (codeless : Codeless t) : marks (shown t) ≤ marks t := by
  rw [shown_of_codeless codeless]
  exact marks_le_of_sublist List.filter_sublist

theorem unescapeBrackets_sublist (t : Text) : (unescapeBrackets t).Sublist t := by
  fun_induction unescapeBrackets t with
  | case1 r ih => exact (ih.cons_cons '[').cons _
  | case2 c r _ ih => exact ih.cons_cons c
  | case3 => exact List.Sublist.refl _

def Piece.shows (p : Piece) : Text := shown (unescapeBrackets p.content)

theorem text_of_showPieces {before s : Styled} {openTags : List OpenTag} {pieces : List Piece}
    (h : showPieces before openTags pieces = .ok s) :
    s.text = before.text ++ pieces.flatMap Piece.shows := by
  induction pieces generalizing before openTags with
  | nil =>
      obtain rfl := Except.ok.inj h
      rw [List.flatMap_nil, List.append_nil]
  | cons p rest ih =>
      have none (position : Nat) (tag : Text) : (Piece.tag position tag).shows = [] := by
        rw [Piece.shows, Piece.content, unescapeBrackets, shown_of_codeless (by simp [Codeless]),
          List.filter_nil]
      cases p with
      | plain t =>
          rw [ih h, List.flatMap_cons, ← List.append_assoc]
          rfl
      | tag position tag =>
          rw [List.flatMap_cons, none, List.nil_append]
          rw [showPieces] at h
          split at h
          · obtain ⟨⟨closed, openTags'⟩, -, h⟩ := except_bind_eq_ok.mp h
            obtain ⟨_, -, h⟩ := except_bind_eq_ok.mp h
            dsimp only at h
            have later := ih h
            exact later
          · obtain ⟨opened, -, h⟩ := except_bind_eq_ok.mp h
            exact ih h

theorem marks_shows_le {pieces : List Piece} (codeless : Codeless (contents pieces)) :
    marks (pieces.flatMap Piece.shows) ≤ marks (contents pieces) := by
  induction pieces with
  | nil => exact Nat.le_refl _
  | cons p rest ih =>
      rw [contents, List.flatMap_cons] at codeless
      have first : Codeless p.content := codeless.of_sublist (List.sublist_append_left _ _)
      have later : Codeless (contents rest) := codeless.of_sublist (List.sublist_append_right _ _)
      have own : marks p.shows ≤ marks p.content :=
        (marks_shown_le (first.of_sublist (unescapeBrackets_sublist _))).trans
          (marks_le_of_sublist (unescapeBrackets_sublist _))
      rw [contents, List.flatMap_cons, List.flatMap_cons, marks_append, marks_append]
      exact Nat.add_le_add own (ih later)

/-- A text without a bracket has no marks. -/
theorem unmarked_of_bracketless {t : Text} (bracketless : '[' ∉ t) : Unmarked t := by
  constructor
  · intro s within
    rw [Option.eq_none_iff_forall_ne_some]
    rintro ⟨n, tag⟩ found
    obtain ⟨r, split, -⟩ := exists_of_tagAt? found
    apply bracketless
    apply within.subset
    rw [split]
    simp
  · exact fun within => bracketless (within.subset (by simp))

/-- A text without codes that shows all of its marks has none that are read. -/
theorem unmarked_of_marks_le {t : Text} {s : Styled} (codeless : Codeless t)
    (read : readMarkup t = .ok s) (kept : marks t ≤ marks s.text) : Unmarked t := by
  by_cases bracket : '[' ∈ t
  · have some : t.any (· == '[') = true := List.any_eq_true.mpr ⟨'[', bracket, rfl⟩
    rw [readMarkup, if_pos some] at read
    have text : s.text = (piecesFrom 0 0 [] t).flatMap Piece.shows := text_of_showPieces read
    obtain ⟨left, leaves, told⟩ := exists_leaves t
    have content : contents (piecesFrom 0 0 [] t) = left := told 0 []
    have fewer : marks t ≤ marks left := by
      have bound := marks_shows_le (content.symm ▸ codeless.of_sublist leaves.sublist)
      calc
        marks t ≤ marks ((piecesFrom 0 0 [] t).flatMap Piece.shows) := text ▸ kept
        _ ≤ marks left := content ▸ bound
    have untagged : ∀ r, r <:+ t → tagAt? r = none := by
      intro r within
      by_contra found
      exact absurd (leaves.marks_lt ⟨r, within, found⟩) (by omega)
    refine ⟨untagged, fun escaped => ?_⟩
    -- Without tags the text is one piece, which loses the backslashes before its brackets.
    have nonempty : t.isEmpty = false :=
      List.isEmpty_eq_false_iff.mpr (List.ne_nil_of_mem bracket)
    rw [piecesFrom_of_forall_untagged untagged, List.reverse_nil, List.nil_append, nonempty,
      if_neg Bool.false_ne_true, List.flatMap_singleton] at text
    have lost := marks_unescapeBrackets_lt escaped
    have shorter : marks s.text ≤ marks (unescapeBrackets t) := by
      rw [text]
      exact marks_shown_le (codeless.of_sublist (unescapeBrackets_sublist t))
    omega
  · exact unmarked_of_bracketless bracket

/-! ### Faults of markup -/

section Faults

variable {f : Fault}

def NotRaised (f : Fault) : Prop := ∀ r, f ≠ .raised r

theorem notRaised_of_styleOf {t : Text} (h : styleOf t = .error f) : NotRaised f := by
  rw [styleOf] at h
  cases style : normalStyle t with
  | ok name =>
      rw [style] at h
      cases h
  | error part =>
      rw [style] at h
      cases h
      exact fun r => Fault.noConfusion

theorem notRaised_of_checkParameters {tag : OpenTag} (h : checkParameters tag = .error f) :
    NotRaised f := by
  rw [checkParameters] at h
  dsimp only at h
  split at h
  · cases h
  · split at h
    · cases h
    · cases h
      exact fun r => Fault.noConfusion

theorem notRaised_of_openTag {n : Nat} {tag : Text} (h : openTag n tag = .error f) :
    NotRaised f := by
  rcases except_bind_eq_error.mp h with h | ⟨style, -, h⟩
  · exact notRaised_of_styleOf h
  · cases h

theorem notRaised_of_closeTag {position : Nat} {tag : Text} {openTags : List OpenTag}
    (h : closeTag position tag openTags = .error f) : NotRaised f := by
  unfold closeTag at h
  dsimp only at h
  split at h
  · split at h
    · cases h
    · cases h
      exact fun r => Fault.noConfusion
  · rcases except_bind_eq_error.mp h with h | ⟨style, -, h⟩
    · exact notRaised_of_styleOf h
    · split at h
      · cases h
      · cases h
        exact fun r => Fault.noConfusion

theorem notRaised_of_showPieces {before : Styled} {openTags : List OpenTag}
    {pieces : List Piece} (h : showPieces before openTags pieces = .error f) : NotRaised f := by
  induction pieces generalizing before openTags with
  | nil => cases h
  | cons p rest ih =>
      cases p with
      | plain t => exact ih h
      | tag position tag =>
          rw [showPieces] at h
          split at h
          · rcases except_bind_eq_error.mp h with h | ⟨⟨closed, openTags'⟩, -, h⟩
            · exact notRaised_of_closeTag h
            · rcases except_bind_eq_error.mp h with h | ⟨_, -, h⟩
              · exact notRaised_of_checkParameters h
              · exact ih h
          · rcases except_bind_eq_error.mp h with h | ⟨opened, -, h⟩
            · exact notRaised_of_openTag h
            · exact ih h

theorem notRaised_of_readMarkup {t : Text} (h : readMarkup t = .error f) : NotRaised f := by
  rw [readMarkup] at h
  split at h
  · exact notRaised_of_showPieces h
  · cases h

end Faults

end CommandManual.Console
