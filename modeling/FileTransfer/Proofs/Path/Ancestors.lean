import FileTransfer.Filesystem.Walk
import Mathlib.Data.List.Chain

/-! Lexical parents, step by step. A path that is some path's parent is its lead and the pieces
before a name, without void ones at the end (`spelled`). Walking it and then a few single dots and
one more step is walking the path below it (`Below`), and its own parents are the further parents
of that path (`ancestors_of_parent?`, `parents_isChain`). -/
namespace FileTransfer.Path

variable {lead : List UInt8} {piece : List UInt8} {pieces back : List (List UInt8)}

/-! ### Pieces -/

theorem glue_cons (piece : List UInt8) (hp : pieces ≠ []) :
    glue (piece :: pieces) = piece ++ slash :: glue pieces := by
  cases pieces with
  | nil => exact absurd rfl hp
  | cons next more => rfl

theorem glue_concat (hp : pieces ≠ []) (piece : List UInt8) :
    glue (pieces ++ [piece]) = glue pieces ++ slash :: piece := by
  induction pieces with
  | nil => exact absurd rfl hp
  | cons first more ih =>
    cases more with
    | nil => rfl
    | cons next rest =>
      have hmore : next :: rest ≠ [] := nofun
      rw [List.cons_append, glue_cons first (by simp), ih hmore, glue_cons first hmore,
        List.append_assoc, List.cons_append]

theorem cut_slash (bytes : List UInt8) : cut (slash :: bytes) = [] :: cut bytes := by
  rw [cut, if_pos rfl]

theorem cut_of_noSlash (hp : slash ∉ piece) : cut piece = [piece] := by
  induction piece with
  | nil => rfl
  | cons b rest ih =>
    have hb : b ≠ slash := Ne.symm (List.ne_of_not_mem_cons hp)
    rw [cut, if_neg hb, ih (List.not_mem_of_not_mem_cons hp)]

theorem cut_append_slash (hp : slash ∉ piece) (bytes : List UInt8) :
    cut (piece ++ slash :: bytes) = piece :: cut bytes := by
  induction piece with
  | nil => exact cut_slash bytes
  | cons b rest ih =>
    have hb : b ≠ slash := Ne.symm (List.ne_of_not_mem_cons hp)
    rw [List.cons_append, cut, if_neg hb, ih (List.not_mem_of_not_mem_cons hp)]

/-- Pieces that were put together are cut apart again. -/
theorem cut_glue (hp : pieces ≠ []) (hs : ∀ piece ∈ pieces, slash ∉ piece) :
    cut (glue pieces) = pieces := by
  induction pieces with
  | nil => exact absurd rfl hp
  | cons first more ih =>
    cases more with
    | nil => exact cut_of_noSlash (hs first List.mem_cons_self)
    | cons next rest =>
      have hmore : next :: rest ≠ [] := nofun
      rw [glue_cons first hmore, cut_append_slash (hs first List.mem_cons_self),
        ih hmore fun q hq => hs q (List.mem_cons_of_mem first hq)]

theorem noSlash_of_mem_cut (bytes : List UInt8) : ∀ piece ∈ cut bytes, slash ∉ piece := by
  induction bytes with
  | nil =>
    intro piece hp
    obtain rfl := List.mem_singleton.mp hp
    exact List.not_mem_nil
  | cons b rest ih =>
    intro piece hp
    unfold cut at hp
    split at hp
    · obtain rfl | hp := List.mem_cons.mp hp
      · exact List.not_mem_nil
      · exact ih piece hp
    · next hb =>
      split at hp
      · next h => exact absurd h (cut_ne_nil rest)
      · next first more h =>
        rw [h] at ih
        obtain rfl | hp := List.mem_cons.mp hp
        · exact List.not_mem_cons_of_ne_of_not_mem (Ne.symm hb) (ih first List.mem_cons_self)
        · exact ih piece (List.mem_cons_of_mem first hp)

theorem isVoid_eq_true : isVoid piece = true ↔ piece = [] ∨ piece = [dot] := by
  simp [isVoid]

theorem ne_nil_of_not_isVoid (h : isVoid piece = false) : piece ≠ [] := by
  rintro rfl
  cases h

/-! ### Spelling -/

/-- Pieces of a body, last piece first, that can stand after a lead. -/
structure Fits (lead : List UInt8) (back : List (List UInt8)) : Prop where
  noSlash : ∀ piece ∈ back, slash ∉ piece
  lead : lead = [slash] ∨
    lead = [] ∧ (∀ first, back.getLast? = some first → isVoid first = false) ∨
    lead = [dot] ∧ ∀ first, back.getLast? = some first → first = []

theorem Fits.of_cons (h : Fits lead (piece :: back)) : Fits lead back where
  noSlash q hq := h.noSlash q (List.mem_cons_of_mem piece hq)
  lead := by
    have last (first : List UInt8) (hf : back.getLast? = some first) :
        (piece :: back).getLast? = some first := by
      rw [List.getLast?_cons, hf, Option.getD_some]
    obtain hl | ⟨hl, hf⟩ | ⟨hl, hf⟩ := h.lead
    · exact .inl hl
    · exact .inr (.inl ⟨hl, fun first h => hf first (last first h)⟩)
    · exact .inr (.inr ⟨hl, fun first h => hf first (last first h)⟩)

/-- A path of a lead and the pieces of a body, last piece first. Void pieces at its end are left
out. -/
def spelled (lead : List UInt8) (back : List (List UInt8)) : Path :=
  ⟨lead ++ glue (back.dropWhile isVoid).reverse⟩

theorem spelled_nil (lead : List UInt8) : spelled lead [] = ⟨lead⟩ := by
  simp [spelled, glue]

theorem spelled_cons_void (h : isVoid piece = true) :
    spelled lead (piece :: back) = spelled lead back := by
  rw [spelled, spelled, List.dropWhile_cons_of_pos h]

theorem spelled_cons (h : isVoid piece = false) :
    spelled lead (piece :: back) = ⟨lead ++ glue (back.reverse ++ [piece])⟩ := by
  rw [spelled, List.dropWhile_cons_of_neg (Bool.eq_false_iff.mp h), List.reverse_cons]

theorem parentsFrom_cons_void (h : isVoid piece = true) :
    parentsFrom lead (piece :: back) = parentsFrom lead back := by
  rw [parentsFrom, if_pos h]

theorem parentsFrom_cons (h : isVoid piece = false) :
    parentsFrom lead (piece :: back) = spelled lead back :: parentsFrom lead back := by
  rw [parentsFrom, if_neg (Bool.eq_false_iff.mp h), spelled]

/-- The lead and the pieces of a path fit each other. -/
theorem fits_split {p : Path} (hp : p.bytes ≠ []) :
    Fits p.split.lead (cut p.split.body).reverse where
  noSlash q hq := noSlash_of_mem_cut _ q (List.mem_reverse.mp hq)
  lead := by
    obtain ⟨bytes⟩ := p
    cases bytes with
    | nil => exact absurd rfl hp
    | cons b rest =>
      simp only [List.getLast?_reverse, split]
      by_cases hb : b = slash
      · exact .inl (by rw [if_pos hb])
      rw [if_neg hb]
      by_cases hd : b = dot ∧ (rest = [] ∨ rest.head? = some slash)
      · rw [if_pos hd]
        refine .inr (.inr ⟨rfl, fun first hf => ?_⟩)
        obtain ⟨-, rfl | hs⟩ := hd
        · exact (Option.some.inj hf).symm
        · obtain ⟨more, rfl⟩ := List.head?_eq_some_iff.mp hs
          rw [cut_slash] at hf
          exact (Option.some.inj hf).symm
      · rw [if_neg hd]
        refine .inr (.inl ⟨rfl, fun first hf => Bool.eq_false_iff.mpr fun hv => hd ?_⟩)
        rw [cut, if_neg hb] at hf
        -- the first piece begins with `b`, so that it is void only if it is a single dot
        cases hc : cut rest with
        | nil => exact absurd hc (cut_ne_nil rest)
        | cons piece pieces =>
          rw [hc] at hf
          obtain rfl := Option.some.inj hf
          obtain h | h := isVoid_eq_true.mp hv
          · cases h
          · obtain ⟨rfl, rfl⟩ := List.cons.inj h
            refine ⟨rfl, ?_⟩
            have hglue := glue_cut rest
            rw [hc] at hglue
            cases pieces with
            | nil => exact .inl hglue.symm
            | cons next more => exact .inr (by rw [← hglue]; rfl)

/-! ### Parents of parents -/

/-- The first piece of a body after its lead. -/
theorem Fits.first (h : Fits lead (piece :: back)) (hp : isVoid piece = false) :
    lead = [slash] ∨
    lead = [] ∧ (∃ b rest more, back.reverse ++ [piece] = (b :: rest) :: more ∧
      b :: rest ≠ [dot] ∧ slash ∉ b :: rest) ∨
    lead = [dot] ∧ ∃ more, more ≠ [] ∧ back.reverse ++ [piece] = [] :: more := by
  have hsome : (piece :: back).getLast? = (back.reverse ++ [piece]).head? := by
    rw [← List.reverse_cons, List.head?_reverse]
  obtain hl | ⟨hl, hf⟩ | ⟨hl, hf⟩ := h.lead
  · exact .inl hl
  · right; left
    refine ⟨hl, ?_⟩
    cases hback : back.reverse ++ [piece] with
    | nil => simp at hback
    | cons first more =>
      rw [hback] at hsome
      have hv := hf first hsome
      have hmem : first ∈ piece :: back := List.mem_of_getLast? hsome
      cases first with
      | nil => cases hv
      | cons b rest =>
        refine ⟨b, rest, more, rfl, ?_, h.noSlash _ hmem⟩
        intro hd
        rw [hd] at hv
        cases hv
  · right; right
    refine ⟨hl, ?_⟩
    cases hback : back.reverse with
    | nil =>
      rw [hback] at hsome
      rw [hf piece hsome] at hp
      cases hp
    | cons first more =>
      rw [hback] at hsome
      refine ⟨more ++ [piece], by simp, ?_⟩
      rw [hf first hsome, List.cons_append]

/-- Pieces whose first one is not void do not look like a single dot and a body. -/
theorem exists_glue_eq_cons {b : UInt8} {rest : List UInt8} (hd : b :: rest ≠ [dot])
    (hs : slash ∉ b :: rest) (more : List (List UInt8)) :
    ∃ tail, glue ((b :: rest) :: more) = b :: tail ∧
      ¬ (b = dot ∧ (tail = [] ∨ tail.head? = some slash)) := by
  have hrest (hb : b = dot) : rest ≠ [] := fun hr => hd (by rw [hb, hr])
  have hhead : rest.head? ≠ some slash := fun hh =>
    hs (List.mem_cons_of_mem b (List.mem_of_head? hh))
  cases more with
  | nil =>
    refine ⟨rest, rfl, ?_⟩
    rintro ⟨hb, ht | ht⟩
    · exact hrest hb ht
    · exact hhead ht
  | cons next others =>
    refine ⟨rest ++ slash :: glue (next :: others), rfl, ?_⟩
    rintro ⟨hb, ht⟩
    cases rest with
    | nil => exact hrest hb rfl
    | cons c rest => exact hhead (ht.resolve_left nofun)

theorem split_spelled (h : Fits lead (piece :: back)) (hp : isVoid piece = false) :
    (spelled lead (piece :: back)).split = ⟨lead, glue (back.reverse ++ [piece])⟩ := by
  rw [spelled_cons hp]
  obtain rfl | ⟨rfl, b, rest, more, hback, hd, hs⟩ | ⟨rfl, more, hmore, hback⟩ := h.first hp
  · rfl
  · obtain ⟨tail, htail, hlead⟩ := exists_glue_eq_cons hd hs more
    have hb : b ≠ slash := fun hb => hs (by rw [hb]; exact List.mem_cons_self)
    rw [hback, htail]
    show split ⟨b :: tail⟩ = _
    simp only [split, if_neg hb, if_neg hlead]
  · rw [hback, glue_cons [] hmore]
    rfl

/-- The body of a spelled path is cut into the pieces it is spelled from. -/
theorem Fits.cut_glue (h : Fits lead (piece :: back)) :
    cut (glue (back.reverse ++ [piece])) = back.reverse ++ [piece] := by
  refine Path.cut_glue (by simp) fun q hq => ?_
  rw [← List.reverse_cons] at hq
  exact h.noSlash q (List.mem_reverse.mp hq)

theorem parents_spelled (h : Fits lead back) :
    (spelled lead back).parents = parentsFrom lead back := by
  induction back with
  | nil =>
    rw [spelled_nil]
    obtain rfl | ⟨rfl, -⟩ | ⟨rfl, -⟩ := h.lead <;> rfl
  | cons piece before ih =>
    cases hv : isVoid piece with
    | true => rw [spelled_cons_void hv, parentsFrom_cons_void hv, ih h.of_cons]
    | false =>
      rw [parents, split_spelled h hv, h.cut_glue, List.reverse_append, List.reverse_reverse]
      rfl

theorem ancestors_of_parentsFrom (h : Fits lead back) {q : Path} {rest : List Path}
    (hp : parentsFrom lead back = q :: rest) : q.ancestors = q :: rest := by
  induction back with
  | nil =>
    rw [parentsFrom] at hp
    split at hp
    · obtain ⟨rfl, rfl⟩ := List.cons.inj hp
      rfl
    · cases hp
  | cons piece before ih =>
    cases hv : isVoid piece with
    | true =>
      rw [parentsFrom_cons_void hv] at hp
      exact ih h.of_cons hp
    | false =>
      rw [parentsFrom_cons hv] at hp
      obtain ⟨rfl, rfl⟩ := List.cons.inj hp
      rw [ancestors, parents_spelled h.of_cons]

/-- The ancestors of a parent are the parents. -/
theorem ancestors_of_parent? {p q : Path} (h : p.parent? = some q) : q.ancestors = p.parents := by
  have hne : p.bytes ≠ [] := by
    obtain ⟨bytes⟩ := p
    rintro rfl
    cases h
  obtain ⟨rest, hrest⟩ := List.head?_eq_some_iff.mp h
  rw [hrest]
  exact ancestors_of_parentsFrom (fits_split hne) hrest

/-- Each ancestor is the parent of the one before it. -/
theorem parent?_isChain (p : Path) :
    p.ancestors.IsChain fun inner outer => inner.parent? = some outer := by
  generalize hn : p.parents.length = n
  induction n generalizing p with
  | zero =>
    rw [ancestors, List.length_eq_zero_iff.mp hn]
    exact .singleton p
  | succ n ih =>
    cases hparents : p.parents with
    | nil =>
      rw [hparents] at hn
      cases hn
    | cons q rest =>
      have hp : p.parent? = some q := by rw [parent?, hparents, List.head?_cons]
      have hq : q :: q.parents = q :: rest := (ancestors_of_parent? hp).trans hparents
      obtain ⟨-, hrest⟩ := List.cons.inj hq
      rw [ancestors, hparents, ← hq]
      refine .cons_cons hp (ih q ?_)
      rw [hrest]
      rw [hparents, List.length_cons] at hn
      exact Nat.succ.inj hn

/-- A path whose pieces are all void is what stands before them. -/
theorem spelled_of_parentsFrom_nil (h : Fits lead back) (hp : parentsFrom lead back = []) :
    spelled lead back = ⟨[]⟩ ∨ spelled lead back = ⟨[slash]⟩ := by
  induction back with
  | nil =>
    rw [spelled_nil]
    obtain rfl | ⟨rfl, -⟩ | ⟨rfl, -⟩ := h.lead
    · exact .inr rfl
    · exact .inl rfl
    · cases hp
  | cons piece before ih =>
    cases hv : isVoid piece with
    | true =>
      rw [parentsFrom_cons_void hv] at hp
      rw [spelled_cons_void hv]
      exact ih h.of_cons hp
    | false =>
      rw [parentsFrom_cons hv] at hp
      cases hp

theorem top_of_parentsFrom (h : Fits lead back) {q : Path} (hp : parentsFrom lead back = [q]) :
    q = ⟨[]⟩ ∨ q = ⟨[slash]⟩ := by
  induction back with
  | nil =>
    rw [parentsFrom] at hp
    split at hp
    · exact .inl (List.singleton_inj.mp hp).symm
    · cases hp
  | cons piece before ih =>
    cases hv : isVoid piece with
    | true =>
      rw [parentsFrom_cons_void hv] at hp
      exact ih h.of_cons hp
    | false =>
      rw [parentsFrom_cons hv] at hp
      obtain ⟨rfl, hnil⟩ := List.cons.inj hp
      exact spelled_of_parentsFrom_nil h.of_cons hnil

/-- The outermost parent is the empty path or the root. -/
theorem top_of_parent? {p q : Path} (h : p.parent? = some q) (hq : q.parents = []) :
    q = ⟨[]⟩ ∨ q = ⟨[slash]⟩ := by
  have hne : p.bytes ≠ [] := by
    obtain ⟨bytes⟩ := p
    rintro rfl
    cases h
  have hparents := ancestors_of_parent? h
  rw [ancestors, hq] at hparents
  exact top_of_parentsFrom (fits_split hne) hparents.symm

/-! ### Steps -/

/-- A path and one below it: after the steps of the first one and some single dots there is one
step more, which leads up or to a name. Only below the empty path it may be a single dot. -/
structure Below (outer inner : Path) : Prop where
  bytes : outer.bytes <+: inner.bytes
  absolute : isAbsolute inner.bytes = isAbsolute outer.bytes
  steps : ∃ heres step, steps inner.bytes = steps outer.bytes ++ heres ++ [step] ∧
    (∀ s ∈ heres, s = .here) ∧ step ≠ .slash ∧ (step = .here → outer.isEmpty = true)

theorem Below.inner_isEmpty {outer inner : Path} (h : Below outer inner) :
    inner.isEmpty = false := by
  obtain ⟨heres, step, hsteps, -⟩ := h.steps
  obtain ⟨bytes⟩ := inner
  cases bytes with
  | nil => simp [Path.steps, cut, step?] at hsteps
  | cons b rest => rfl

/-- The steps of a lead. -/
def leadSteps (lead : List UInt8) : List PathStep :=
  if lead = [dot] then [.here] else []

theorem getLast?_spelled_cons (h : Fits lead (piece :: back)) (hp : isVoid piece = false) :
    (spelled lead (piece :: back)).bytes.getLast? ≠ some slash := by
  obtain ⟨before, hb⟩ : ∃ before, lead ++ glue (back.reverse ++ [piece]) = before ++ piece := by
    by_cases hback : back.reverse = []
    · exact ⟨lead, by rw [hback]; rfl⟩
    · exact ⟨lead ++ (glue back.reverse ++ [slash]), by rw [glue_concat hback]; simp⟩
  rw [spelled_cons hp, hb, List.getLast?_append_of_ne_nil _ (ne_nil_of_not_isVoid hp)]
  exact fun hl => h.noSlash piece List.mem_cons_self (List.mem_of_getLast? hl)

theorem filterMap_cut_spelled_cons (h : Fits lead (piece :: back)) (hp : isVoid piece = false) :
    (cut (spelled lead (piece :: back)).bytes).filterMap step? =
      leadSteps lead ++ (back.reverse ++ [piece]).filterMap step? := by
  have hcut := h.cut_glue
  rw [spelled_cons hp]
  obtain rfl | ⟨rfl, -⟩ | ⟨rfl, more, hmore, hback⟩ := h.first hp
  · show (cut (slash :: glue _)).filterMap step? = _
    rw [cut_slash, hcut]
    rfl
  · rw [List.nil_append, hcut]
    rfl
  · -- the first piece of the body is empty, and the lead takes its place
    have hdot : slash ∉ [dot] := by decide
    have hlead : cut (dot :: slash :: glue more) = [dot] :: cut (glue more) :=
      cut_append_slash hdot _
    rw [hback, glue_cons [] hmore, List.nil_append, cut_slash] at hcut
    rw [hback, glue_cons [] hmore]
    show (cut (dot :: slash :: glue more)).filterMap step? = _
    rw [hlead, (List.cons.inj hcut).2]
    rfl

theorem steps_spelled_cons (h : Fits lead (piece :: back)) (hp : isVoid piece = false) :
    steps (spelled lead (piece :: back)).bytes =
      leadSteps lead ++ (back.reverse ++ [piece]).filterMap step? := by
  have hlast := getLast?_spelled_cons h hp
  show (if _ ∧ _ then _ else _) = _
  rw [if_neg fun hc => hlast hc.1, filterMap_cut_spelled_cons h hp]

/-- The pieces of a body lead through the path that is spelled from them, and then nowhere else. -/
theorem exists_heres (h : Fits lead back) :
    ∃ heres, (∀ s ∈ heres, s = .here) ∧ leadSteps lead ++ back.reverse.filterMap step? =
      steps (spelled lead back).bytes ++ heres := by
  induction back with
  | nil =>
    refine ⟨[], nofun, ?_⟩
    rw [spelled_nil]
    obtain rfl | ⟨rfl, -⟩ | ⟨rfl, -⟩ := h.lead <;> decide
  | cons piece before ih =>
    cases hv : isVoid piece with
    | true =>
      obtain ⟨heres, hh, hsteps⟩ := ih h.of_cons
      refine ⟨heres ++ [piece].filterMap step?, ?_, ?_⟩
      · intro s hs
        obtain hs | hs := List.mem_append.mp hs
        · exact hh s hs
        · obtain rfl | rfl := isVoid_eq_true.mp hv
          · cases hs
          · exact List.mem_singleton.mp hs
      · rw [spelled_cons_void hv, List.reverse_cons, List.filterMap_append, ← List.append_assoc,
          hsteps, List.append_assoc]
    | false =>
      refine ⟨[], nofun, ?_⟩
      rw [steps_spelled_cons h hv, List.reverse_cons, List.append_nil]

theorem isAbsolute_spelled (h : Fits lead back) :
    isAbsolute (spelled lead back).bytes = (lead == [slash]) := by
  induction back with
  | nil =>
    rw [spelled_nil]
    obtain rfl | ⟨rfl, -⟩ | ⟨rfl, -⟩ := h.lead <;> decide
  | cons piece before ih =>
    cases hv : isVoid piece with
    | true => rw [spelled_cons_void hv, ih h.of_cons]
    | false =>
      rw [spelled_cons hv]
      obtain rfl | ⟨rfl, b, rest, more, hback, -, hs⟩ | ⟨rfl, more, hmore, hback⟩ := h.first hv
      · rfl
      · rw [hback]
        have hb : b ≠ slash := fun hb => hs (by rw [hb]; exact List.mem_cons_self)
        have hhead : (glue ((b :: rest) :: more)).head? = some b := by cases more <;> rfl
        rw [List.nil_append, isAbsolute, hhead]
        simpa using hb
      · rw [hback]
        rfl

theorem step?_of_not_isVoid (hp : isVoid piece = false) :
    ∃ step, step? piece = some step ∧ step ≠ .slash ∧ step ≠ .here := by
  by_cases hd : piece = dots
  · exact ⟨.up, by rw [hd]; rfl, nofun, nofun⟩
  · simp only [isVoid, Bool.or_eq_false_iff, beq_eq_false_iff_ne] at hp
    exact ⟨.name piece, by simp [step?, hp, hd], nofun, nofun⟩

theorem glue_isPrefix (xs ys : List (List UInt8)) : glue xs <+: glue (xs ++ ys) := by
  induction xs with
  | nil => exact List.nil_prefix
  | cons x more ih =>
    cases more with
    | nil =>
      cases ys with
      | nil => exact List.prefix_rfl
      | cons y ys => exact ⟨slash :: glue (y :: ys), rfl⟩
    | cons next rest =>
      have hmore : next :: rest ≠ [] := nofun
      rw [List.cons_append, glue_cons x hmore, glue_cons x (by simp)]
      exact List.prefix_append_right_inj _ |>.mpr (List.cons_prefix_cons.mpr ⟨rfl, ih⟩)

theorem below_spelled (h : Fits lead (piece :: back)) (hp : isVoid piece = false) :
    Below (spelled lead back) (spelled lead (piece :: back)) where
  bytes := by
    rw [spelled_cons hp]
    obtain ⟨voids, hvoids⟩ := List.dropWhile_suffix isVoid (l := back)
    have hback : back.reverse ++ [piece] =
        (back.dropWhile isVoid).reverse ++ (voids.reverse ++ [piece]) := by
      rw [← List.append_assoc, ← List.reverse_append, hvoids]
    rw [hback]
    exact List.prefix_append_right_inj _ |>.mpr (glue_isPrefix _ _)
  absolute := by rw [isAbsolute_spelled h, isAbsolute_spelled h.of_cons]
  steps := by
    obtain ⟨heres, hh, hsteps⟩ := exists_heres h.of_cons
    obtain ⟨step, hstep, hslash, hhere⟩ := step?_of_not_isVoid hp
    refine ⟨heres, step, ?_, hh, hslash, fun h => absurd h hhere⟩
    rw [steps_spelled_cons h hp, List.filterMap_append, ← List.append_assoc, hsteps]
    simp [hstep]

theorem isChain_parentsFrom (h : Fits lead back) :
    (spelled lead back :: parentsFrom lead back).IsChain fun inner outer => Below outer inner := by
  induction back with
  | nil =>
    rw [spelled_nil]
    obtain rfl | ⟨rfl, -⟩ | ⟨rfl, -⟩ := h.lead
    · exact .singleton _
    · exact .singleton _
    · have hbelow : Below ⟨[]⟩ ⟨[dot]⟩ :=
        ⟨List.nil_prefix, rfl, [], .here, rfl, nofun, nofun, fun _ => rfl⟩
      exact .cons_cons hbelow (.singleton _)
  | cons piece before ih =>
    cases hv : isVoid piece with
    | true =>
      rw [spelled_cons_void hv, parentsFrom_cons_void hv]
      exact ih h.of_cons
    | false =>
      rw [parentsFrom_cons hv]
      exact .cons_cons (below_spelled h hv) (ih h.of_cons)

/-- Each parent is below the next one. -/
theorem parents_isChain (p : Path) : p.parents.IsChain fun inner outer => Below outer inner := by
  by_cases hp : p.bytes = []
  · obtain ⟨bytes⟩ := p
    obtain rfl : bytes = [] := hp
    exact .nil
  · exact (isChain_parentsFrom (fits_split hp)).tail

end FileTransfer.Path
