import AsyncActions.Terminal.Markup
import Mathlib.Data.List.Basic
import Mathlib.Data.List.TakeWhile
import Mathlib.Tactic.Common

/-!
# Markup that can be read

Reading markup fails at a tag that closes what is not open, and where a style or the value of a handler
means nothing. Text without brackets holds no tag, so markup can be read if each stretch of such text
stands alone or between a tag of a known style and the one that closes it. A backslash at the end of the
text takes its meaning from the closing tag, which does no harm: the stretch then reaches to the end.
-/

namespace AsyncActions.Terminal.Markup

/-- A tag that names no handler, and a style that can be looked up. -/
def Open.isSound (o : Open) : Bool := !o.isHandler && (Style.find o.styleText).isOk

/-- What is between the brackets opens such a tag. -/
def opensSound (body : List Char) : Bool :=
  match tagOf 0 body with
  | .tag _ name value => (styleOf name).toOption.any fun style => (Open.mk 0 style value).isSound
  | .text _ => false

/-- The name of a style as it stands in a tag. -/
structure IsStyle (body : List Char) : Prop where
  head : ∃ c ∈ body.head?, 'a' ≤ c ∧ c ≤ 'z'
  plain : ∀ c ∈ body, c ≠ '[' ∧ c ≠ ']' ∧ c ≠ '='
  sound : opensSound body = true

instance (body : List Char) : Decidable (IsStyle body) :=
  decidable_of_iff ((body.head?.any fun c => 'a' ≤ c ∧ c ≤ 'z') ∧
    (body.all fun c => c ≠ '[' ∧ c ≠ ']' ∧ c ≠ '=') ∧ opensSound body = true) <| by
      simp only [Option.any_eq_true, List.all_eq_true, decide_eq_true_eq]
      exact ⟨fun h => ⟨h.1, h.2.1, h.2.2⟩, fun h => ⟨h.head, h.plain, h.sound⟩⟩

/-- What closes a tag: its name, or nothing. -/
def Closes (body close : List Char) : Prop := close = [] ∨ close = body ∧ Text.strip body = body

instance (body close : List Char) : Decidable (Closes body close) :=
  inferInstanceAs (Decidable (_ ∨ _))

/-- What may stand between the brackets of a tag. -/
def IsTagBody (body : List Char) : Prop :=
  (∃ c ∈ body.head?, ('a' ≤ c ∧ c ≤ 'z') ∨ c = '#' ∨ c = '/' ∨ c = '@') ∧ ∀ c ∈ body, c ≠ '[' ∧ c ≠ ']'

/-- A tag. -/
def tag (body : List Char) : List Char := '[' :: body ++ [']']

/-- Text without brackets, of which stretches stand between a tag and one that closes it. -/
inductive Balanced : List Char → Prop
  | plain {cs : List Char} : '[' ∉ cs → Balanced cs
  | group {before body cs close rest : List Char} :
      '[' ∉ before → '\\' ∉ before → IsStyle body → '[' ∉ cs → Closes body close → Balanced rest →
        Balanced (before ++ (tag body ++ (cs ++ (tag ('/' :: close) ++ rest))))

/-! ### Parts -/

section

variable {body cs rest : List Char}

lemma tagBody?_of_ne (h : cs.head? ≠ some '[') : tagBody? cs = none := by
  unfold tagBody?
  split
  · exact absurd rfl h
  · rfl

lemma tagBody?_tag (h : IsTagBody body) (rest : List Char) : tagBody? (tag body ++ rest) = some body := by
  obtain ⟨⟨c, hc, hfirst⟩, hplain⟩ := h
  obtain ⟨cs, rfl⟩ := List.head?_eq_some_iff.mp hc
  have hfirst : (('a' ≤ c && c ≤ 'z') || c = '#' || c = '/' || c = '@') = true := by
    simpa [or_assoc] using hfirst
  have htake : (cs ++ ']' :: rest).takeWhile (fun d => d ≠ '[' && d ≠ ']') = cs := by
    rw [List.takeWhile_append_of_pos fun d hd => by simpa using hplain d (List.mem_cons_of_mem _ hd)]
    simp
  have htag : tag (c :: cs) ++ rest = '[' :: c :: (cs ++ ']' :: rest) := by simp [tag]
  simp only [htag, tagBody?, hfirst, if_true, htake, List.drop_left', List.head?_cons]

lemma IsStyle.isTagBody (h : IsStyle body) : IsTagBody body := by
  obtain ⟨c, hc, hrange⟩ := h.head
  exact ⟨⟨c, hc, Or.inl hrange⟩, fun d hd => ⟨(h.plain d hd).1, (h.plain d hd).2.1⟩⟩

lemma Closes.isTagBody {close : List Char} (hbody : IsStyle body) (h : Closes body close) :
    IsTagBody ('/' :: close) := by
  refine ⟨⟨'/', rfl, Or.inr (Or.inr (Or.inl rfl))⟩, List.forall_mem_cons.mpr ⟨by decide, fun d hd => ?_⟩⟩
  rcases h with rfl | ⟨rfl, -⟩
  · cases hd
  · exact hbody.isTagBody.2 d hd

/-- A part that is text. -/
def IsText (part : MarkupPart) : Prop := ∃ cs, part = .text cs

lemma isText_flush (text : List Char) : ∀ part ∈ flush text, IsText part := by
  intro part hpart
  unfold flush at hpart
  split at hpart
  · cases hpart
  · exact ⟨_, List.mem_singleton.mp hpart⟩

lemma partsFrom_of_none {c : Char} (place : Nat) (text : List Char)
    (h : Markup.tagBody? ((c :: cs).drop ((c :: cs).takeWhile (· = '\\')).length) = none) :
    partsFrom place text (c :: cs) = partsFrom (place + 1) (c :: text) cs := by
  rw [partsFrom, h]

/-- At a tag, and at backslashes before one, text ends. -/
lemma partsFrom_of_some (place : Nat) (text : List Char) (hne : cs ≠ []) {slashes : Nat}
    (hslashes : (cs.takeWhile (· = '\\')).length = slashes)
    (h : Markup.tagBody? (cs.drop slashes) = some body) :
    partsFrom place text cs =
      (flush text ++ if slashes / 2 = 0 then [] else [.text (List.replicate (slashes / 2) '\\')]) ++
        (if slashes % 2 = 1 then .text (tag body) else tagOf (place + 2 * (slashes / 2)) body) ::
          partsFrom (place + slashes + body.length + 2) [] (cs.drop (slashes + body.length + 2)) := by
  subst hslashes
  cases cs with
  | nil => exact absurd rfl hne
  | cons c cs =>
    rw [partsFrom, h]
    simp only [List.append_assoc, List.singleton_append]
    rfl

/-- After the backslashes at its start stands the rest of a text that does not consist of them. -/
lemma drop_backslashes (hall : ¬ ∀ c ∈ cs, c = '\\') (rest : List Char) :
    (cs ++ rest).drop ((cs ++ rest).takeWhile (· = '\\')).length = cs.dropWhile (· = '\\') ++ rest ∧
      cs.dropWhile (· = '\\') ≠ [] := by
  have hsplit := List.takeWhile_append_dropWhile (p := (· = '\\')) (l := cs)
  have hother : cs.dropWhile (· = '\\') ≠ [] := fun hnil => hall (by simpa using List.dropWhile_eq_nil_iff.mp hnil)
  have hshort : (cs.takeWhile (· = '\\')).length ≠ cs.length := by
    have hlength := congrArg List.length hsplit
    rw [List.length_append] at hlength
    have := List.length_pos_of_ne_nil hother
    omega
  rw [List.takeWhile_append, if_neg hshort]
  generalize cs.takeWhile (· = '\\') = run at hsplit ⊢
  generalize cs.dropWhile (· = '\\') = others at hsplit hother ⊢
  subst hsplit
  rw [List.append_assoc, List.drop_left]
  exact ⟨rfl, hother⟩

/-- Backslashes that end before another character are before no tag. -/
lemma tagBody?_past_backslashes (h : '[' ∉ cs) (hall : ¬ ∀ c ∈ cs, c = '\\') (rest : List Char) :
    Markup.tagBody? ((cs ++ rest).drop ((cs ++ rest).takeWhile (· = '\\')).length) = none := by
  obtain ⟨hdrop, hother⟩ := drop_backslashes hall rest
  rw [hdrop]
  refine tagBody?_of_ne fun hhead => h ?_
  rw [List.head?_append_of_ne_nil _ hother] at hhead
  exact (List.dropWhile_suffix _).subset (List.mem_of_mem_head? hhead)

/-- In text without brackets there are no tags. -/
lemma isText_partsFrom (h : '[' ∉ cs) (place : Nat) (text : List Char) :
    ∀ part ∈ partsFrom place text cs, IsText part := by
  induction cs generalizing place text with
  | nil =>
    rw [partsFrom]
    exact isText_flush text
  | cons c cs ih =>
    rw [partsFrom_of_none]
    · exact ih (fun hc => h (List.mem_cons_of_mem _ hc)) _ _
    · refine tagBody?_of_ne fun hhead => h ?_
      exact List.mem_of_mem_drop (List.mem_of_mem_head? hhead)

lemma partsFrom_backslashes (h : ∀ c ∈ cs, c = '\\')
    (hbody : Markup.tagBody? (tag body ++ rest) = some body) (place : Nat) (text : List Char) :
    ∃ texts part place', partsFrom place text (cs ++ (tag body ++ rest)) =
        texts ++ part :: partsFrom place' [] rest ∧
      (∀ p ∈ texts, IsText p) ∧ (IsText part ∧ '\\' ∈ cs ∨ ∃ n, part = tagOf n body) := by
  have hne : cs ++ (tag body ++ rest) ≠ [] := by simp [tag]
  have hslashes : ((cs ++ (tag body ++ rest)).takeWhile (· = '\\')).length = cs.length := by
    rw [List.takeWhile_append_of_pos fun c hc => by simpa using h c hc]
    simp [tag]
  have hdrop : (cs ++ (tag body ++ rest)).drop (cs.length + body.length + 2) = rest := by
    rw [← List.append_assoc, List.drop_left' (by simp [tag]; omega)]
  have hparts := partsFrom_of_some place text hne hslashes ((congrArg _ List.drop_left).trans hbody)
  rw [hdrop] at hparts
  refine ⟨_, _, _, hparts, ?_, ?_⟩
  · intro p hp
    rcases List.mem_append.mp hp with hp | hp
    · exact isText_flush text p hp
    · split at hp
      · cases hp
      · exact ⟨_, List.mem_singleton.mp hp⟩
  · split
    · next hodd =>
      refine Or.inl ⟨⟨_, rfl⟩, ?_⟩
      obtain ⟨c, hc⟩ := List.exists_mem_of_length_pos (l := cs) (by omega)
      exact h c hc ▸ hc
    · exact Or.inr ⟨_, rfl⟩

/-- Before a tag there is text. The tag itself is text too if a backslash is before it. -/
lemma partsFrom_tag (h : '[' ∉ cs) (hbody : Markup.tagBody? (tag body ++ rest) = some body) (place : Nat)
    (text : List Char) :
    ∃ texts part place', partsFrom place text (cs ++ (tag body ++ rest)) =
        texts ++ part :: partsFrom place' [] rest ∧
      (∀ p ∈ texts, IsText p) ∧ (IsText part ∧ '\\' ∈ cs ∨ ∃ n, part = tagOf n body) := by
  induction cs generalizing place text with
  | nil => exact partsFrom_backslashes (fun c hc => absurd hc List.not_mem_nil) hbody place text
  | cons c cs ih =>
    by_cases hall : ∀ d ∈ c :: cs, d = '\\'
    · exact partsFrom_backslashes hall hbody place text
    · -- the backslashes at the start, if any, end before another character
      have hnone := tagBody?_past_backslashes h hall (tag body ++ rest)
      obtain ⟨texts, part, place', hparts, htexts, hpart⟩ :=
        ih (fun hc => h (List.mem_cons_of_mem _ hc)) (place + 1) (c :: text)
      refine ⟨texts, part, place', ?_, htexts, hpart.imp_left fun ⟨ht, hmem⟩ =>
        ⟨ht, List.mem_cons_of_mem _ hmem⟩⟩
      exact (partsFrom_of_none place text hnone).trans hparts

/-! ### Reading -/

lemma tagOf_of_valueless (h : '=' ∉ body) (n : Nat) : tagOf n body = .tag n body none := by
  have hname : body.takeWhile (· ≠ '=') = body :=
    List.takeWhile_eq_self_iff.mpr fun c hc => by simpa using fun he : c = '=' => h (he ▸ hc)
  simp only [tagOf, hname, Nat.lt_irrefl, if_false]

lemma IsStyle.valueless (h : IsStyle body) : '=' ∉ body := fun hmem => (h.plain _ hmem).2.2 rfl

/-- No tag of the state can make the reading fail later. -/
structure State.Sound (s : State) : Prop where
  opened : ∀ o ∈ s.opened, o.isSound = true
  closed : ∀ c ∈ s.closed, c.1.isSound = true

/-- Closing a tag that is sound leaves a sound state. -/
lemma close_of_isSound {s : State} {o : Open} (ho : o.isSound = true) (opened : List Open) :
    s.close o opened = .ok { s with opened, closed := (o, s.chars.length) :: s.closed } := by
  have hhandler : o.isHandler = false := by
    rw [Open.isSound, Bool.and_eq_true, Bool.not_eq_true'] at ho
    exact ho.1
  unfold State.close
  split
  · simp [hhandler]
  · rfl

/-- The value of a handler may mean nothing. -/
lemma close_cases (s : State) (o : Open) (opened : List Open) :
    (∃ e, s.close o opened = .error e) ∨
      s.close o opened = .ok { s with opened, closed := (o, s.chars.length) :: s.closed } := by
  unfold State.close
  split
  · split
    · exact Or.inl ⟨_, rfl⟩
    · exact Or.inr rfl
  · exact Or.inr rfl

lemma exists_span {o : Open} (ho : o.isSound = true) (stop : Nat) : ∃ span, o.span stop = .ok span := by
  rw [Open.isSound, Bool.and_eq_true] at ho
  unfold Open.span
  cases hfind : Style.find o.styleText with
  | ok style => exact ⟨_, rfl⟩
  | error e =>
    rw [hfind] at ho
    cases ho.2

/-- The styles of a sound state can all be looked up. -/
lemma read_of_sound {text : String} {s : State} (hs : (parts text.toList).foldlM step ⟨[], [], []⟩ = .ok s)
    (h : s.Sound) : ∃ t, read text = .ok t ∧ t.chars = s.chars := by
  have hall : ∀ c ∈ (s.opened.reverse.map fun o => (o, s.chars.length)) ++ s.closed, c.1.isSound = true := by
    refine List.forall_mem_append.mpr ⟨List.forall_mem_map.mpr fun o ho => ?_, h.closed⟩
    exact h.opened o (List.mem_reverse.mp ho)
  obtain ⟨spans, hspans⟩ : ∃ spans, ((s.opened.reverse.map fun o => (o, s.chars.length)) ++ s.closed).mapM
      (fun c : Open × Nat => c.1.span c.2) = .ok spans := by
    generalize (s.opened.reverse.map fun o => (o, s.chars.length)) ++ s.closed = closed at hall
    induction closed with
    | nil => exact ⟨[], rfl⟩
    | cons c closed ih =>
      obtain ⟨hc, hrest⟩ := List.forall_mem_cons.mp hall
      obtain ⟨span, hspan⟩ := exists_span hc c.2
      obtain ⟨spans, hspans⟩ := ih hrest
      refine ⟨span :: spans, ?_⟩
      rw [List.mapM_cons, hspan, hspans]
      rfl
  refine ⟨⟨s.chars, .none, spans.mergeSort fun a b => a.start ≤ b.start⟩, ?_, rfl⟩
  simp only [read, hs, hspans, bind, Except.bind, pure, Except.pure]

/-- Text opens and closes nothing. -/
lemma foldlM_step_texts {texts : List MarkupPart} (h : ∀ p ∈ texts, IsText p) (s : State) :
    ∃ s', texts.foldlM step s = .ok s' ∧ s'.opened = s.opened ∧ s'.closed = s.closed := by
  induction texts generalizing s with
  | nil => exact ⟨s, rfl, rfl, rfl⟩
  | cons part texts ih =>
    obtain ⟨cs, rfl⟩ := h part List.mem_cons_self
    obtain ⟨s', hs', hsame⟩ := ih (fun p hp => h p (List.mem_cons_of_mem _ hp))
      { s with chars := s.chars ++ shown (drawPictures (unescape cs)) }
    exact ⟨s', hs', hsame⟩

/-- A tag that is no closing one is opened. -/
lemma step_open (hslash : body.head? ≠ some '/') (hsound : opensSound body = true) (n : Nat) (s : State) :
    ∃ s' o, step s (tagOf n body) = .ok s' ∧ s'.chars = s.chars ∧ s'.opened = o :: s.opened ∧
      s'.closed = s.closed ∧ o.isSound = true ∧ styleOf (body.takeWhile (· ≠ '=')) = .ok o.name := by
  simp only [opensSound, tagOf] at hsound
  simp only [tagOf, step]
  split
  · next hname =>
    have hhead : (body.takeWhile (· ≠ '=')).head? = some '/' := by rw [hname, List.head?_cons]
    rw [List.head?_takeWhile, Option.filter_eq_some_iff] at hhead
    exact absurd hhead.1 hslash
  · cases hstyle : styleOf (body.takeWhile (· ≠ '=')) with
    | error e =>
      rw [hstyle] at hsound
      cases hsound
    | ok style =>
      rw [hstyle] at hsound
      exact ⟨_, _, rfl, rfl, rfl, rfl, hsound, rfl⟩

lemma IsStyle.head?_ne (hbody : IsStyle body) : body.head? ≠ some '/' := by
  obtain ⟨c, hc, ha, -⟩ := hbody.head
  rintro hslash
  rw [Option.mem_def.mp hc] at hslash
  cases hslash
  exact absurd ha (by decide)

lemma IsStyle.takeWhile (h : IsStyle body) : body.takeWhile (· ≠ '=') = body :=
  List.takeWhile_eq_self_iff.mpr fun c hc => by simpa using (h.plain c hc).2.2

lemma IsStyle.ne_nil (h : IsStyle body) : body ≠ [] := by
  rintro rfl
  obtain ⟨c, hc, -⟩ := h.head
  cases hc

/-- A tag that is closed where it is the last that was opened. -/
lemma step_close {close : List Char} (hbody : IsStyle body) (h : Closes body close) (n : Nat) {s : State}
    {o : Open} {opened : List Open} (hopened : s.opened = o :: opened) (hsound : o.isSound = true)
    (hname : styleOf body = .ok o.name) :
    step s (tagOf n ('/' :: close)) = .ok { s with opened, closed := (o, s.chars.length) :: s.closed } := by
  rcases h with rfl | ⟨rfl, hstrip⟩
  · rw [tagOf_of_valueless (by decide), ← close_of_isSound hsound]
    simp only [step, hopened]
    rfl
  · have hvalueless : '=' ∉ '/' :: close := by simpa using hbody.valueless
    rw [tagOf_of_valueless hvalueless, ← close_of_isSound hsound]
    simp only [step, hstrip, if_neg hbody.ne_nil, hopened, hname, bind, Except.bind, takeOpen?, if_true]

/-- From any sound state balanced markup can be read. -/
lemma foldlM_step_balanced (h : Balanced cs) (place : Nat) {s : State} (hs : s.Sound) :
    ∃ s', (partsFrom place [] cs).foldlM step s = .ok s' ∧ s'.Sound := by
  induction h generalizing place s with
  | plain h =>
    obtain ⟨s', hs', hopened, hclosed⟩ := foldlM_step_texts (isText_partsFrom h place []) s
    exact ⟨s', hs', hopened ▸ hs.opened, hclosed ▸ hs.closed⟩
  | @group before body cs close rest hbefore hslash hbody hcs hclose _ ih =>
    obtain ⟨texts, part, place', hparts, htexts, hpart⟩ := partsFrom_tag hbefore
      (tagBody?_tag hbody.isTagBody (cs ++ (tag ('/' :: close) ++ rest))) place []
    obtain ⟨texts', part', place'', hparts', htexts', hpart'⟩ := partsFrom_tag hcs
      (tagBody?_tag (hclose.isTagBody hbody) rest) place' []
    obtain ⟨n, rfl⟩ := hpart.resolve_left fun hmem => hslash hmem.2
    obtain ⟨s₁, hs₁, hopened₁, hclosed₁⟩ := foldlM_step_texts htexts s
    obtain ⟨s₂, o, hs₂, -, hopened₂, hclosed₂, hsound, hname⟩ := step_open hbody.head?_ne hbody.sound n s₁
    obtain ⟨s₃, hs₃, hopened₃, hclosed₃⟩ := foldlM_step_texts htexts' s₂
    have hopened : s₃.opened = o :: s.opened := by rw [hopened₃, hopened₂, hopened₁]
    have hclosed : s₃.closed = s.closed := by rw [hclosed₃, hclosed₂, hclosed₁]
    rw [hbody.takeWhile] at hname
    -- a backslash may have made text of the closing tag
    obtain ⟨s₄, hs₄, hsound₄⟩ : ∃ s₄, step s₃ part' = .ok s₄ ∧ s₄.Sound := by
      rcases hpart' with ⟨⟨_, rfl⟩, -⟩ | ⟨m, rfl⟩
      · refine ⟨_, rfl, ?_, hclosed ▸ hs.closed⟩
        rw [hopened]
        exact List.forall_mem_cons.mpr ⟨hsound, hs.opened⟩
      · refine ⟨_, step_close hbody hclose m hopened hsound hname, hs.opened, ?_⟩
        rw [hclosed]
        exact List.forall_mem_cons.mpr ⟨hsound, hs.closed⟩
    obtain ⟨s₅, hs₅, hsound₅⟩ := ih place'' hsound₄
    refine ⟨s₅, ?_, hsound₅⟩
    rw [hparts, hparts']
    simp only [List.foldlM_append, List.foldlM_cons, bind, Except.bind, hs₁, hs₂, hs₃, hs₄, hs₅]

end

lemma sound_empty : State.Sound ⟨[], [], []⟩ := ⟨nofun, nofun⟩

/-- Balanced markup stands for a text. -/
theorem read_of_balanced {text : String} (h : Balanced text.toList) : ∃ t, read text = .ok t := by
  obtain ⟨s, hs, hsound⟩ := foldlM_step_balanced h 0 sound_empty
  obtain ⟨t, ht, -⟩ := read_of_sound hs hsound
  exact ⟨t, ht⟩

end AsyncActions.Terminal.Markup
