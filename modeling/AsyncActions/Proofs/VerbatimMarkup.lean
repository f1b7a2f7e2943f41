import AsyncActions.Proofs.BalancedMarkup

/-!
# Markup that stands for itself

Text is shown as it is written if it has no tag, no bracket after a backslash, and no name of a picture
between colons. Of `Shows` markup such stretches stay where their tags are left out. Any other tag is
not seen either, or cannot be read.
-/

namespace AsyncActions.Terminal

/-- Between two colons stands the name of a picture. -/
def HasPicture (cs : List Char) : Prop :=
  ∃ before name after, cs = before ++ ':' :: (name ++ ':' :: after) ∧ ':' ∉ name ∧
    (∀ c ∈ name, Text.isSpace c = false) ∧ drawName name ≠ ':' :: name ++ [':']

lemma HasPicture.append_left {cs : List Char} (h : HasPicture cs) (before : List Char) :
    HasPicture (before ++ cs) := by
  obtain ⟨front, name, after, rfl, hname⟩ := h
  exact ⟨before ++ front, name, after, (List.append_assoc _ _ _).symm, hname⟩

lemma not_hasPicture_of_not_mem {cs : List Char} (h : ':' ∉ cs) : ¬ HasPicture cs := by
  rintro ⟨before, name, after, rfl, -⟩
  simp at h

/-- What may be the start of a name is held back until the name ends. -/
def heldBack : Option (List Char) → List Char
  | none => []
  | some ds => ':' :: ds.reverse

lemma drawAfter_of_not_hasPicture {cs : List Char} (name : Option (List Char))
    (hname : ∀ ds ∈ name, ':' ∉ ds ∧ ∀ c ∈ ds, Text.isSpace c = false)
    (h : ¬ HasPicture (heldBack name ++ cs)) : drawAfter name cs = heldBack name ++ cs := by
  induction cs generalizing name with
  | nil => cases name <;> simp [drawAfter, heldBack]
  | cons c cs ih =>
    have hrest : ¬ HasPicture cs := fun hp => h <| by
      simpa using (hp.append_left [c]).append_left (heldBack name)
    cases name with
    | none =>
      rw [drawAfter]
      by_cases hc : c = ':'
      · subst hc
        rw [if_pos rfl, ih (some []) (by simp) (by simpa [heldBack] using h)]
        rfl
      · rw [if_neg hc, ih none (by simp) (by simpa [heldBack] using hrest)]
        rfl
    | some ds =>
      obtain ⟨hcolon, hspace⟩ := hname ds rfl
      have hnone := ih none (by simp) (by simpa [heldBack] using hrest)
      rw [drawAfter]
      by_cases hc : c = ':'
      · subst hc
        have hdraw : drawName ds.reverse = ':' :: ds.reverse ++ [':'] := by
          by_contra hne
          exact h ⟨[], ds.reverse, cs, by simp [heldBack], by simpa using hcolon, by simpa using hspace, hne⟩
        rw [if_pos rfl, hdraw, hnone]
        simp [heldBack]
      · rw [if_neg hc]
        by_cases hs : Text.isSpace c = true
        · rw [if_pos hs, hnone]
          simp [heldBack]
        · have hlonger : ∀ ds' ∈ some (c :: ds), ':' ∉ ds' ∧ ∀ d ∈ ds', Text.isSpace d = false := by
            rintro _ ⟨⟩
            exact ⟨by simpa using ⟨Ne.symm hc, hcolon⟩, List.forall_mem_cons.mpr ⟨by simpa using hs, hspace⟩⟩
          rw [if_neg hs, ih (some (c :: ds)) hlonger (by simpa [heldBack] using h)]
          simp [heldBack]

lemma drawPictures_of_not_hasPicture {cs : List Char} (h : ¬ HasPicture cs) : drawPictures cs = cs :=
  drawAfter_of_not_hasPicture none (by simp) h

namespace Markup

/-! ### Tags -/

def HasTag (cs : List Char) : Prop := ∃ before body after, cs = before ++ (tag body ++ after) ∧ IsTagBody body

lemma HasTag.append_left {cs : List Char} (h : HasTag cs) (before : List Char) : HasTag (before ++ cs) := by
  obtain ⟨front, body, after, rfl, hbody⟩ := h
  exact ⟨before ++ front, body, after, (List.append_assoc _ _ _).symm, hbody⟩

/-- Text that has a meaning only as itself. -/
structure Literal (cs : List Char) : Prop where
  noTag : ¬ HasTag cs
  noEscape : ∀ before after, cs ≠ before ++ '\\' :: '[' :: after
  noPicture : ¬ HasPicture cs

lemma literal_of_not_mem {cs : List Char} (hbracket : '[' ∉ cs) (hcolon : ':' ∉ cs) : Literal cs where
  noTag := by
    rintro ⟨before, body, after, rfl, -⟩
    simp [tag] at hbracket
  noEscape := by
    rintro before after rfl
    simp at hbracket
  noPicture := not_hasPicture_of_not_mem hcolon

lemma literal_nil : Literal [] := literal_of_not_mem List.not_mem_nil List.not_mem_nil

section

variable {cs rest body : List Char}

lemma tagBody?_eq_some (h : tagBody? cs = some body) : IsTagBody body ∧ ∃ after, cs = tag body ++ after := by
  unfold tagBody? at h
  split at h
  · next c cs =>
    split at h
    · next hfirst =>
      dsimp only at h
      split at h
      · next hclose =>
        obtain rfl := Option.some.inj h
        set inside := cs.takeWhile fun d => d ≠ '[' && d ≠ ']' with hinside
        have hplain : ∀ d ∈ inside, d ≠ '[' ∧ d ≠ ']' := fun d hd => by
          simpa using List.mem_takeWhile_imp hd
        have hc : ('a' ≤ c ∧ c ≤ 'z') ∨ c = '#' ∨ c = '/' ∨ c = '@' := by simpa [or_assoc] using hfirst
        have hbracket : c ≠ '[' ∧ c ≠ ']' := by
          rcases hc with ⟨hc, hc'⟩ | rfl | rfl | rfl
          · constructor <;> rintro rfl <;> revert hc hc' <;> decide
          all_goals decide
        obtain ⟨after, hafter⟩ := List.head?_eq_some_iff.mp hclose
        refine ⟨⟨⟨c, rfl, hc⟩, List.forall_mem_cons.mpr ⟨hbracket, hplain⟩⟩, after, ?_⟩
        have hsplit : cs = inside ++ cs.drop inside.length := by
          conv_lhs => rw [← List.takeWhile_append_dropWhile (p := fun d => d ≠ '[' && d ≠ ']') (l := cs)]
          rw [← hinside, List.append_cancel_left_eq]
          conv_rhs => rw [← List.takeWhile_append_dropWhile (p := fun d => d ≠ '[' && d ≠ ']') (l := cs)]
          rw [← hinside, List.drop_left]
        rw [hafter] at hsplit
        simp [tag, hsplit]
      · cases h
    · cases h
  · cases h

lemma tagBody?_of_not_hasTag (h : ¬ HasTag cs) : tagBody? cs = none := by
  cases hbody : tagBody? cs with
  | none => rfl
  | some body =>
    obtain ⟨hb, after, rfl⟩ := tagBody?_eq_some hbody
    exact absurd ⟨[], body, after, rfl, hb⟩ h

/-- Text without a tag does not become the start of one by the tag that follows. -/
lemma tagBody?_append_tag (h : ¬ HasTag cs) (hne : cs ≠ []) : tagBody? (cs ++ (tag body ++ rest)) = none := by
  cases hsome : tagBody? (cs ++ (tag body ++ rest)) with
  | none => rfl
  | some inside =>
    obtain ⟨hinside, after, heq⟩ := tagBody?_eq_some hsome
    rcases List.append_eq_append_iff.mp heq with ⟨more, htag, hmore⟩ | ⟨more, rfl, -⟩
    · cases more with
      | nil =>
        rw [List.append_nil] at htag
        exact absurd ⟨[], inside, [], by simp [htag], hinside⟩ h
      | cons d more =>
        -- the bracket of the next tag would stand within this one
        obtain rfl : '[' = d := (List.cons.inj hmore).1
        obtain ⟨c, cs, rfl⟩ := List.exists_cons_of_ne_nil hne
        have hwithin : '[' ∈ inside ++ [']'] := by
          rw [show inside ++ [']'] = cs ++ '[' :: more from (List.cons.inj htag).2]
          exact List.mem_append_right _ List.mem_cons_self
        rcases List.mem_append.mp hwithin with hmem | hmem
        · exact absurd rfl (hinside.2 _ hmem).1
        · exact absurd (List.mem_singleton.mp hmem) (by decide)
    · exact absurd ⟨[], inside, more, rfl, hinside⟩ h

/-- Text without tags is one part. -/
lemma partsFrom_of_not_hasTag (h : ¬ HasTag cs) (place : Nat) (text : List Char) :
    partsFrom place text cs = flush (cs.reverse ++ text) := by
  induction cs generalizing place text with
  | nil =>
    rw [partsFrom]
    rfl
  | cons c cs ih =>
    have hcs : ¬ HasTag cs := fun ht => h (ht.append_left [c])
    rw [partsFrom_of_none, ih hcs]
    · simp
    · refine tagBody?_of_not_hasTag fun ht => h ?_
      rw [← List.take_append_drop ((c :: cs).takeWhile (· = '\\')).length (c :: cs)]
      exact ht.append_left _

/-- Up to a tag it is one part too. -/
lemma partsFrom_append_tag (h : ¬ HasTag cs) (hlast : cs.getLast? ≠ some '\\')
    (hbody : IsTagBody body) (place : Nat) (text : List Char) :
    ∃ n place', partsFrom place text (cs ++ (tag body ++ rest)) =
      flush (cs.reverse ++ text) ++ tagOf n body :: partsFrom place' [] rest := by
  induction cs generalizing place text with
  | nil =>
    have hslashes : ((tag body ++ rest).takeWhile (· = '\\')).length = 0 := by simp [tag]
    have hdrop : (tag body ++ rest).drop (0 + body.length + 2) = rest :=
      List.drop_left' (by simp [tag])
    have hparts := partsFrom_of_some place text (by simp [tag]) hslashes (tagBody?_tag hbody rest)
    rw [hdrop] at hparts
    exact ⟨_, _, by simpa using hparts⟩
  | cons c cs ih =>
    have hcs : ¬ HasTag cs := fun ht => h (ht.append_left [c])
    have hlast' : cs.getLast? ≠ some '\\' := by
      cases cs with
      | nil => simp
      | cons d cs => simpa using hlast
    obtain ⟨n, place', hparts⟩ := ih hcs hlast' (place + 1) (c :: text)
    refine ⟨n, place', ?_⟩
    rw [List.cons_append, partsFrom_of_none, hparts]
    · simp
    · -- backslashes at the start, if any, end before another character of the text
      have hall : ¬ ∀ d ∈ c :: cs, d = '\\' := fun hall => hlast <| by
        rw [List.getLast?_eq_some_getLast (List.cons_ne_nil c cs)]
        exact congrArg some (hall _ (List.getLast_mem _))
      obtain ⟨hdrop, hother⟩ := drop_backslashes hall (tag body ++ rest)
      rw [← List.cons_append, hdrop]
      refine tagBody?_append_tag (fun ht => h ?_) hother
      rw [← List.takeWhile_append_dropWhile (p := (· = '\\')) (l := c :: cs)]
      exact ht.append_left _

/-! ### Reading -/

lemma unescape_eq_self (h : ∀ before after, cs ≠ before ++ '\\' :: '[' :: after) : unescape cs = cs := by
  induction cs with
  | nil => rfl
  | cons c cs ih =>
    have hcs := ih fun before after heq => h (c :: before) after (by rw [heq, List.cons_append])
    rw [unescape.eq_def]
    split
    · next heq => exact absurd heq (h [] _)
    · next heq =>
      obtain ⟨rfl, rfl⟩ := List.cons.inj heq
      rw [hcs]
    · next heq => cases heq

/-- Literal text is added as it is. -/
lemma foldlM_step_flush (h : Literal cs) (s : State) :
    (flush cs.reverse).foldlM step s = .ok { s with chars := s.chars ++ shown cs } := by
  by_cases hne : cs = []
  · subst hne
    simp [flush, shown, pure, Except.pure]
  · rw [flush, if_neg (by simpa using hne), List.reverse_reverse]
    simp [step, unescape_eq_self h.noEscape, drawPictures_of_not_hasPicture h.noPicture]

/-- The name under which a tag opens a style, if it does. -/
def styleName (body : List Char) : String := ((styleOf (body.takeWhile (· ≠ '='))).toOption).getD ""

/-- A tag that closes what is between it and its bracket: the last style of a name, or just the last. -/
def Leaves (close : List Char) (opened opened' : List String) : Prop :=
  let name := Text.strip (close.takeWhile (· ≠ '='))
  name = [] ∧ (∃ last, opened = last :: opened') ∨
    name ≠ [] ∧ ∃ style, styleOf name = .ok style ∧ style ∈ opened ∧ opened' = opened.erase style

/-- Where these styles are open, the markup shows the text: its tags are left out, and all that close a
style find one. Tags that name a handler, or a style that cannot be looked up, are set aside. -/
inductive Shows : List String → List Char → List Char → Prop
  | literal {opened : List String} {cs : List Char} : Literal cs → Shows opened cs cs
  | enter {opened : List String} {before body rest text : List Char} :
      Literal before → before.getLast? ≠ some '\\' → IsTagBody body → body.head? ≠ some '/' →
        opensSound body = true → Shows (styleName body :: opened) rest text →
          Shows opened (before ++ (tag body ++ rest)) (before ++ text)
  | leave {opened opened' : List String} {before close rest text : List Char} :
      Literal before → before.getLast? ≠ some '\\' → IsTagBody ('/' :: close) → Leaves close opened opened' →
        Shows opened' rest text →
          Shows opened (before ++ (tag ('/' :: close) ++ rest)) (before ++ text)

/-- Where these styles are open, a tag of the markup closes none of them. -/
inductive Strays : List String → List Char → Prop
  | here {opened : List String} {before close rest : List Char} :
      Literal before → before.getLast? ≠ some '\\' → IsTagBody ('/' :: close) →
        (∀ opened', ¬ Leaves close opened opened') → Strays opened (before ++ (tag ('/' :: close) ++ rest))
  | enter {opened : List String} {before body rest : List Char} :
      Literal before → before.getLast? ≠ some '\\' → IsTagBody body → body.head? ≠ some '/' →
        Strays (styleName body :: opened) rest → Strays opened (before ++ (tag body ++ rest))
  | leave {opened opened' : List String} {before close rest : List Char} :
      Literal before → before.getLast? ≠ some '\\' → IsTagBody ('/' :: close) → Leaves close opened opened' →
        Strays opened' rest → Strays opened (before ++ (tag ('/' :: close) ++ rest))

/-- The names of the styles that are open. -/
def State.names (s : State) : List String := s.opened.map Open.name

lemma styleName_of_eq_ok {style : String} (h : styleOf (body.takeWhile (· ≠ '=')) = .ok style) :
    styleName body = style := by
  rw [styleName, h]
  rfl

/-- A tag opens its style, or the reading ends. -/
lemma step_enter (h : body.head? ≠ some '/') (n : Nat) (s : State) :
    (∃ e, step s (tagOf n body) = .error e) ∨
      ∃ s', step s (tagOf n body) = .ok s' ∧ s'.names = styleName body :: s.names := by
  simp only [tagOf, step]
  split
  · next hname =>
    have hhead : (body.takeWhile (· ≠ '=')).head? = some '/' := by rw [hname, List.head?_cons]
    rw [List.head?_takeWhile, Option.filter_eq_some_iff] at hhead
    exact absurd hhead.1 h
  · cases hstyle : styleOf (body.takeWhile (· ≠ '=')) with
    | error e => exact Or.inl ⟨e, rfl⟩
    | ok style =>
      rw [styleName_of_eq_ok hstyle]
      exact Or.inr ⟨_, rfl, rfl⟩

lemma takeOpen?_of_mem {name : String} {os : List Open} (h : name ∈ os.map Open.name) :
    ∃ o os', takeOpen? name os = some (o, os') ∧ os'.map Open.name = (os.map Open.name).erase name ∧
      o ∈ os ∧ os' ⊆ os := by
  induction os with
  | nil => cases h
  | cons o os ih =>
    rw [takeOpen?, List.map_cons]
    by_cases ho : o.name = name
    · rw [if_pos ho, ho, List.erase_cons_head]
      exact ⟨o, os, rfl, rfl, List.mem_cons_self, List.subset_cons_self _ _⟩
    · obtain ⟨p, os', htake, hnames, hp, hsub⟩ := ih ((List.mem_cons.mp h).resolve_left (Ne.symm ho))
      rw [if_neg ho, htake, List.erase_cons_tail (by simpa using ho), ← hnames]
      exact ⟨p, o :: os', rfl, rfl, List.mem_cons_of_mem _ hp, List.cons_subset_cons _ hsub⟩

/-- A tag that closes a style closes one that is open. -/
lemma step_leave {close : List Char} {s : State} {opened : List String} (h : Leaves close s.names opened)
    (n : Nat) :
    ∃ o os, step s (tagOf n ('/' :: close)) = s.close o os ∧ o ∈ s.opened ∧ os ⊆ s.opened ∧
      os.map Open.name = opened := by
  have hname : ('/' :: close).takeWhile (· ≠ '=') = '/' :: close.takeWhile (· ≠ '=') := by simp
  simp only [tagOf, hname, step]
  rcases h with ⟨hempty, last, hlast⟩ | ⟨hne, style, hstyle, hmem, rfl⟩
  · rw [if_pos hempty]
    cases hopened : s.opened with
    | nil => simp [State.names, hopened] at hlast
    | cons o os =>
      rw [State.names, hopened] at hlast
      exact ⟨o, os, rfl, List.mem_cons_self, List.subset_cons_self _ _, (List.cons.inj hlast).2⟩
  · obtain ⟨o, os, htake, hnames, ho, hos⟩ := takeOpen?_of_mem hmem
    refine ⟨o, os, ?_, ho, hos, hnames⟩
    simp only [if_neg hne, hstyle, bind, Except.bind, htake]

lemma takeOpen?_of_not_mem {name : String} {os : List Open} (h : name ∉ os.map Open.name) :
    takeOpen? name os = none := by
  induction os with
  | nil => rfl
  | cons o os ih =>
    rw [List.map_cons, List.mem_cons, not_or] at h
    rw [takeOpen?, if_neg (Ne.symm h.1), ih h.2]
    rfl

lemma step_stray {close : List Char} {s : State} (h : ∀ opened, ¬ Leaves close s.names opened) (n : Nat) :
    ∃ e, step s (tagOf n ('/' :: close)) = .error e := by
  have hname : ('/' :: close).takeWhile (· ≠ '=') = '/' :: close.takeWhile (· ≠ '=') := by simp
  simp only [tagOf, hname, step]
  by_cases hempty : Text.strip (close.takeWhile (· ≠ '=')) = []
  · rw [if_pos hempty]
    cases hopened : s.opened with
    | nil => exact ⟨_, rfl⟩
    | cons o os =>
      have hnames : s.names = o.name :: os.map Open.name := by rw [State.names, hopened, List.map_cons]
      exact absurd (Or.inl ⟨hempty, _, hnames⟩) (h _)
  · rw [if_neg hempty]
    cases hstyle : styleOf (Text.strip (close.takeWhile (· ≠ '='))) with
    | error e => exact ⟨e, rfl⟩
    | ok style =>
      have hnone := takeOpen?_of_not_mem fun hmem => h _ (Or.inr ⟨hempty, style, hstyle, hmem, rfl⟩)
      simp only [bind, Except.bind, hnone]
      exact ⟨_, rfl⟩

/-- Reading text before a tag, the tag, and then what follows it. -/
lemma foldlM_step_tag {before : List Char} (hbefore : Literal before) (hslash : before.getLast? ≠ some '\\')
    (hbody : IsTagBody body) (place : Nat) (s : State) :
    ∃ n place', (partsFrom place [] (before ++ (tag body ++ rest))).foldlM step s =
      (step { s with chars := s.chars ++ shown before } (tagOf n body) >>=
        (partsFrom place' [] rest).foldlM step) := by
  obtain ⟨n, place', hparts⟩ := partsFrom_append_tag hbefore.noTag hslash hbody place []
  refine ⟨n, place', ?_⟩
  rw [hparts, List.append_nil]
  simp only [List.foldlM_append, List.foldlM_cons, bind, Except.bind, foldlM_step_flush hbefore]

lemma foldlM_step_shows {opened : List String} {text : List Char} (h : Shows opened cs text) (place : Nat)
    {s : State} (hs : s.names = opened) (hsound : s.Sound) :
    ∃ s', (partsFrom place [] cs).foldlM step s = .ok s' ∧ s'.chars = s.chars ++ shown text ∧ s'.Sound := by
  induction h generalizing place s with
  | literal h =>
    rw [partsFrom_of_not_hasTag h.noTag, List.append_nil]
    exact ⟨_, foldlM_step_flush h s, rfl, hsound.opened, hsound.closed⟩
  | @enter opened before body _ _ hbefore hslash hbody hhead hopens _ ih =>
    obtain ⟨n, place', hfold⟩ := foldlM_step_tag hbefore hslash hbody place s
    obtain ⟨s', o, hs', hchars, hopened, hclosed, ho, hname⟩ :=
      step_open hhead hopens n { s with chars := s.chars ++ shown before }
    have hnames : s'.names = styleName body :: opened := by
      rw [State.names, hopened, List.map_cons, ← styleName_of_eq_ok hname, ← hs]
      rfl
    have hsound' : s'.Sound :=
      ⟨hopened ▸ List.forall_mem_cons.mpr ⟨ho, hsound.opened⟩, hclosed ▸ hsound.closed⟩
    obtain ⟨s'', hs'', hchars', hsound''⟩ := ih place' hnames hsound'
    rw [hfold, hs']
    exact ⟨s'', hs'', by simp [hchars', hchars, shown], hsound''⟩
  | @leave _ _ before _ _ _ hbefore hslash hbody hleaves _ ih =>
    subst hs
    obtain ⟨n, place', hfold⟩ := foldlM_step_tag hbefore hslash hbody place s
    obtain ⟨o, os, hstep, ho, hos, hnames⟩ :=
      step_leave (s := { s with chars := s.chars ++ shown before }) hleaves n
    have ho := hsound.opened o ho
    rw [close_of_isSound ho] at hstep
    have hsound' : State.Sound ⟨s.chars ++ shown before, os, (o, (s.chars ++ shown before).length) :: s.closed⟩ :=
      ⟨fun p hp => hsound.opened p (hos hp), List.forall_mem_cons.mpr ⟨ho, hsound.closed⟩⟩
    obtain ⟨s'', hs'', hchars', hsound''⟩ := ih place' (s := ⟨_, os, _⟩) hnames hsound'
    rw [hfold, hstep]
    exact ⟨s'', hs'', by simp [hchars', shown], hsound''⟩

/-- Markup that shows a text is read as that text. -/
theorem read_of_shows {markup : String} {text : List Char} (h : Shows [] markup.toList text) :
    ∃ t, read markup = .ok t ∧ t.chars = shown text := by
  obtain ⟨s, hs, hchars, hsound⟩ := foldlM_step_shows h 0 rfl sound_empty
  obtain ⟨t, ht, hsame⟩ := read_of_sound hs hsound
  exact ⟨t, ht, hsame.trans (by simpa using hchars)⟩

lemma foldlM_step_strays {opened : List String} (h : Strays opened cs) (place : Nat) {s : State}
    (hs : s.names = opened) : ∃ e, (partsFrom place [] cs).foldlM step s = .error e := by
  induction h generalizing place s with
  | @here _ before _ _ hbefore hslash hbody hstray =>
    subst hs
    obtain ⟨n, place', hfold⟩ := foldlM_step_tag hbefore hslash hbody place s
    obtain ⟨e, he⟩ := step_stray (s := { s with chars := s.chars ++ shown before }) hstray n
    rw [hfold, he]
    exact ⟨e, rfl⟩
  | @enter _ before _ _ hbefore hslash hbody hopen _ ih =>
    obtain ⟨n, place', hfold⟩ := foldlM_step_tag hbefore hslash hbody place s
    rw [hfold]
    rcases step_enter hopen n { s with chars := s.chars ++ shown before } with ⟨e, he⟩ | ⟨s', hs', hnames⟩
    · rw [he]
      exact ⟨e, rfl⟩
    · rw [hs']
      exact ih place' (hnames.trans (congrArg _ hs))
  | @leave _ _ before _ _ hbefore hslash hbody hleaves _ ih =>
    subst hs
    obtain ⟨n, place', hfold⟩ := foldlM_step_tag hbefore hslash hbody place s
    obtain ⟨o, os, hstep, -, -, hnames⟩ :=
      step_leave (s := { s with chars := s.chars ++ shown before }) hleaves n
    rw [hfold, hstep]
    -- the tag that is closed may be that of a handler, whose value means nothing
    rcases close_cases { s with chars := s.chars ++ shown before } o os with ⟨e, he⟩ | hclosed
    · rw [he]
      exact ⟨e, rfl⟩
    · rw [hclosed]
      exact ih place' (s := ⟨_, os, _⟩) hnames

/-- Markup in which a tag strays cannot be read. -/
theorem read_of_strays {markup : String} (h : Strays [] markup.toList) : ∃ e, read markup = .error e := by
  obtain ⟨e, he⟩ := foldlM_step_strays h 0 (s := ⟨[], [], []⟩) rfl
  unfold read
  rw [parts, he]
  exact ⟨e, rfl⟩

lemma Shows.length_le {opened : List String} {text : List Char} (h : Shows opened cs text) :
    text.length ≤ cs.length := by
  induction h with
  | literal => exact Nat.le_refl _
  | enter | leave => simp only [List.length_append]; omega

/-- Markup shows itself if there is no tag in it. -/
lemma Shows.eq_self_iff {opened : List String} {text : List Char} (h : Shows opened cs text) :
    text = cs ↔ ¬ HasTag cs := by
  cases h with
  | literal h => exact iff_of_true rfl h.noTag
  | enter _ _ hbody _ _ hrest | leave _ _ hbody _ hrest =>
    refine iff_of_false (fun heq => ?_) fun hnone => hnone ⟨_, _, _, rfl, hbody⟩
    have hlength := congrArg List.length heq
    have hle := hrest.length_le
    simp only [List.length_append, tag, List.length_cons] at hlength
    omega

/-- The name of an open style closes it. -/
lemma leaves_of_mem {opened : List String} (hbody : IsStyle body) (hstrip : Text.strip body = body)
    (hmem : styleName body ∈ opened) : Leaves body opened (opened.erase (styleName body)) := by
  obtain ⟨-, o, -, -, -, -, -, hname⟩ := step_open hbody.head?_ne hbody.sound 0 ⟨[], [], []⟩
  have hstyle := styleName_of_eq_ok hname
  rw [hbody.takeWhile] at hname
  refine Or.inr ⟨?_, o.name, ?_, hstyle ▸ hmem, by rw [hstyle]⟩
  · rw [hbody.takeWhile, hstrip]
    exact hbody.ne_nil
  · rw [hbody.takeWhile, hstrip, hname]

lemma Leaves.concat {close : List Char} {opened opened' : List String} (h : Leaves close opened opened')
    (name : String) : Leaves close (opened ++ [name]) (opened' ++ [name]) := by
  rcases h with ⟨hempty, last, rfl⟩ | ⟨hne, style, hstyle, hmem, rfl⟩
  · exact Or.inl ⟨hempty, last, rfl⟩
  · exact Or.inr ⟨hne, style, hstyle, List.mem_append_left _ hmem, (List.erase_append_left _ hmem).symm⟩

/-- A style that is open around markup is closed after it. -/
lemma Shows.closed {opened : List String} {text : List Char} (h : Shows opened cs text)
    (hbody : IsStyle body) (hstrip : Text.strip body = body) (hslash : cs.getLast? ≠ some '\\') :
    Shows (opened ++ [styleName body]) (cs ++ tag ('/' :: body)) text := by
  have hcloses : Closes body body := Or.inr ⟨rfl, hstrip⟩
  have hrest {before inside rest : List Char}
      (hlast : (before ++ (tag inside ++ rest)).getLast? ≠ some '\\') : rest.getLast? ≠ some '\\' := by
    intro hrest
    rw [← List.append_assoc, List.getLast?_append, hrest] at hlast
    exact hlast rfl
  induction h with
  | @literal opened _ h =>
    have hmem : styleName body ∈ opened ++ [styleName body] := List.mem_append_right _ List.mem_cons_self
    have hleave := Shows.leave h hslash (hcloses.isTagBody hbody) (leaves_of_mem hbody hstrip hmem)
      (.literal literal_nil)
    simpa using hleave
  | enter hbefore hopens hinside hhead hsound _ ih =>
    have henter := Shows.enter hbefore hopens hinside hhead hsound (ih (hrest hslash))
    simpa using henter
  | leave hbefore hopens hinside hleaves _ ih =>
    have hleave := Shows.leave hbefore hopens hinside (hleaves.concat _) (ih (hrest hslash))
    simpa using hleave

/-- A style is closed again after some text. -/
lemma Shows.group {opened : List String} {before close rest text : List Char} (hbefore : Literal before)
    (hslash : before.getLast? ≠ some '\\') (hbody : IsStyle body) (hcs : Literal cs)
    (hslash' : cs.getLast? ≠ some '\\') (hclose : Closes body close) (h : Shows opened rest text) :
    Shows opened (before ++ (tag body ++ (cs ++ (tag ('/' :: close) ++ rest)))) (before ++ (cs ++ text)) := by
  have hleaves : Leaves close (styleName body :: opened) opened := by
    rcases hclose with rfl | ⟨rfl, hstrip⟩
    · exact Or.inl ⟨rfl, _, rfl⟩
    · have hleaves := leaves_of_mem hbody hstrip (List.mem_cons_self (l := opened))
      rwa [List.erase_cons_head] at hleaves
  exact .enter hbefore hslash hbody.isTagBody hbody.head?_ne hbody.sound
    (.leave hcs hslash' (hclose.isTagBody hbody) hleaves h)

end

end Markup

end AsyncActions.Terminal
