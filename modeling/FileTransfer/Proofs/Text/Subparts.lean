import FileTransfer.Proofs.Text.Utf8

/-! What stands for bytes that are no text.

Bytes at which no well-formed sequence begins are shown as one replacement character for each
maximal subpart of them: the longest run that some well-formed sequence begins with, or a single
byte if there is none (`Subpart`). This leaves nothing open (`Shown.unique`), and it is how the
reader shows any byte string (`shown_iff`): whenever it breaks a character off, what it has seen
begins a well-formed sequence and cannot go on as one (`Underway`). -/
namespace FileTransfer.Text.Utf8

variable {bytes part rest : List UInt8} {p : Pending} {b : UInt8} {n : Nat} {cs ds : List Char}

/-- Bytes that some well-formed sequence begins with. -/
def Begins (bytes : List UInt8) : Prop :=
  ∃ more n, Encodes (bytes ++ more) n

/-- The maximal invalid subpart at the front of bytes, and what follows it. -/
structure Subpart (part rest : List UInt8) : Prop where
  ne_nil : part ≠ []
  invalid : ∀ bytes n, Encodes bytes n → ¬ bytes <+: part ++ rest
  begins : Begins part ∨ part.length = 1
  longest : ∀ bytes, bytes <+: part ++ rest → Begins bytes → bytes.length ≤ part.length

/-- A byte string and what is shown for it: the characters that are there, and a replacement
character for each maximal invalid subpart. -/
inductive Shown : List UInt8 → List Char → Prop
  | nil : Shown [] []
  | char {bytes rest : List UInt8} {n : Nat} {cs : List Char} :
      Encodes bytes n → Shown rest cs → Shown (bytes ++ rest) (Char.ofNat n :: cs)
  | subpart {part rest : List UInt8} {cs : List Char} :
      Subpart part rest → Shown rest cs → Shown (part ++ rest) ('\uFFFD' :: cs)

/-! ### Nothing is left open -/

/-- No well-formed sequence is the beginning of another one. -/
theorem Encodes.eq_of_append {bytes' rest' : List UInt8} {m : Nat} (h : Encodes bytes n)
    (h' : Encodes bytes' m) (heq : bytes ++ rest = bytes' ++ rest') :
    bytes = bytes' ∧ Char.ofNat n = Char.ofNat m := by
  have hpieces := h.pieces rest
  rw [heq, h'.pieces rest'] at hpieces
  have hchar : Char.ofNat m = Char.ofNat n := Piece.scalar.inj (List.cons.inj hpieces).1
  exact ⟨by rw [← h.encodeChar, ← h'.encodeChar, hchar], hchar.symm⟩

/-- Two maximal subparts at the front of the same bytes are equal. -/
theorem Subpart.eq_of_append {part' rest' : List UInt8} (h : Subpart part rest)
    (h' : Subpart part' rest') (heq : part ++ rest = part' ++ rest') : part = part' := by
  have length_le {part rest part' rest' : List UInt8} (h : Subpart part rest)
      (h' : Subpart part' rest') (heq : part ++ rest = part' ++ rest') :
      part.length ≤ part'.length := by
    obtain hbegins | hone := h.begins
    · exact h'.longest part (heq ▸ List.prefix_append part rest) hbegins
    · exact hone ▸ List.length_pos_iff.mpr h'.ne_nil
  exact List.append_inj_left heq
    (Nat.le_antisymm (length_le h h' heq) (length_le h' h heq.symm))

theorem Encodes.ne_nil (h : Encodes bytes n) : bytes ≠ [] := by
  cases h <;> simp

theorem Shown.unique (h : Shown bytes cs) (h' : Shown bytes ds) : cs = ds := by
  induction h generalizing ds with
  | nil =>
    generalize hbytes : ([] : List UInt8) = bytes at h'
    cases h' with
    | nil => rfl
    | char he _ => exact absurd (List.append_eq_nil_iff.mp hbytes.symm).1 he.ne_nil
    | subpart hp _ => exact absurd (List.append_eq_nil_iff.mp hbytes.symm).1 hp.ne_nil
  | @char bytes rest n cs he _ ih =>
    generalize hbytes : bytes ++ rest = all at h'
    cases h' with
    | nil => exact absurd (List.append_eq_nil_iff.mp hbytes).1 he.ne_nil
    | char he' hrest' =>
      obtain ⟨rfl, hchar⟩ := he.eq_of_append he' hbytes
      rw [hchar, ih (List.append_cancel_left hbytes ▸ hrest')]
    | subpart hp _ => exact absurd ⟨rest, hbytes⟩ (hp.invalid bytes n he)
  | @subpart part rest cs hp _ ih =>
    generalize hbytes : part ++ rest = all at h'
    cases h' with
    | nil => exact absurd (List.append_eq_nil_iff.mp hbytes).1 hp.ne_nil
    | @char bytes' rest' m ds he _ => exact absurd ⟨rest', hbytes.symm⟩ (hp.invalid bytes' m he)
    | subpart hp' hrest' =>
      obtain rfl := hp.eq_of_append hp' hbytes
      rw [ih (List.append_cancel_left hbytes ▸ hrest')]

/-! ### What the reader breaks off -/

/-- What the reader breaks off is a maximal subpart, if it does so before all that could follow with
this next byte, and a sequence begins with it or it is one byte. -/
theorem subpart_of_broken (hne : part ≠ []) (hbegins : Begins part ∨ part.length = 1)
    (hbroken : ∀ more : List UInt8, more.head? = rest.head? →
      ∃ ps, pieces (part ++ more) = .broken part :: ps) : Subpart part rest where
  ne_nil := hne
  invalid := by
    rintro bytes n he ⟨tail, htail⟩
    obtain ⟨ps, hps⟩ := hbroken rest rfl
    rw [← htail, he.pieces] at hps
    cases hps
  begins := hbegins
  longest := by
    rintro bytes hprefix ⟨more, n, he⟩
    refine Nat.not_lt.mp fun hlonger => ?_
    obtain ⟨tail, rfl⟩ : part <+: bytes :=
      List.prefix_of_prefix_length_le (List.prefix_append part rest) hprefix (by omega)
    obtain ⟨after, hafter⟩ := (List.prefix_append_right_inj part).mp hprefix
    have htail : tail ≠ [] := by
      rintro rfl
      simp at hlonger
    have hhead : (tail ++ more).head? = rest.head? := by
      obtain ⟨b, tail, rfl⟩ := List.exists_cons_of_ne_nil htail
      rw [← hafter]
      rfl
    obtain ⟨ps, hps⟩ := hbroken (tail ++ more) hhead
    have hpieces := he.pieces []
    rw [List.append_nil, List.append_assoc, hps] at hpieces
    cases hpieces

/-- A character under way: what was seen of it leads the reader here, and some byte goes on with
it. -/
structure Underway (p : Pending) : Prop where
  seen : p.seen ≠ []
  reaches : ∀ rest, pieces (p.seen ++ rest) = piecesFrom (some p) rest
  sound : p.Sound
  range : p.low.toNat ≤ p.high.toNat

theorem Pending.Sound.begins (h : p.Sound) (hr : p.low.toNat ≤ p.high.toNat) : Begins p.seen := by
  induction h with
  | @last p owed whole => exact ⟨[p.low], _, whole p.low (Nat.le_refl _) hr⟩
  | @more p owed next ih =>
    obtain ⟨more, n, he⟩ := ih p.low (Nat.le_refl _) hr (Nat.le_of_ble_eq_true rfl)
    rw [List.append_assoc] at he
    exact ⟨_, n, he⟩

theorem lead_range (h : lead b = some p) : p.low.toNat ≤ p.high.toNat := by
  unfold lead at h
  repeat' split at h
  all_goals cases h
  all_goals exact Nat.le_of_ble_eq_true rfl

theorem lead_underway (h : lead b = some p) : p.seen = [b] ∧ Underway p := by
  obtain ⟨hseen, hsound⟩ := lead_sound h
  have hlarge : 0x80 ≤ b.toNat := by
    refine Nat.not_lt.mp fun hsmall => ?_
    rw [lead_eq_none (by omega)] at h
    cases h
  refine ⟨hseen, by rw [hseen]; exact List.cons_ne_nil b [], fun rest => ?_, hsound, lead_range h⟩
  rw [hseen, List.singleton_append, pieces, piecesFrom_cons, step_none h hlarge]
  rfl

namespace Underway

/-- A byte that goes on with the character. -/
theorem more (h : Underway p) (owed : 1 < p.owed) (low : p.low.toNat ≤ b.toNat)
    (high : b.toNat ≤ p.high.toNat) :
    Underway ⟨p.seen ++ [b], p.value * 64 + (b.toNat - 0x80), p.owed - 1, 0x80, 0xBF⟩ where
  seen := by simp
  reaches rest := by
    rw [List.append_assoc, List.singleton_append, h.reaches, piecesFrom_cons,
      step_more owed low high]
    rfl
  sound := by
    cases h.sound with
    | last one => omega
    | more _ next => exact next b low high
  range := Nat.le_of_ble_eq_true rfl

/-- The last byte of the character. -/
theorem encodes (h : Underway p) (owed : p.owed ≤ 1) (low : p.low.toNat ≤ b.toNat)
    (high : b.toNat ≤ p.high.toNat) :
    p.owed = 1 ∧ Encodes (p.seen ++ [b]) (p.value * 64 + (b.toNat - 0x80)) := by
  cases h.sound with
  | last one whole => exact ⟨one, whole b low high⟩
  | more several => omega

end Underway

/-- The character is broken off at the end and before a byte that does not go on with it. -/
theorem piecesFrom_of_stop
    (hstop : ∀ b ∈ rest.head?, ¬ (p.low.toNat ≤ b.toNat ∧ b.toNat ≤ p.high.toNat)) :
    piecesFrom (some p) rest = .broken p.seen :: pieces rest := by
  cases rest with
  | nil => rfl
  | cons b rest =>
    have hout := hstop b rfl
    rw [← UInt8.le_iff_toNat_le, ← UInt8.le_iff_toNat_le] at hout
    have hstep : step (some p) b = (.broken p.seen :: (start b).1, (start b).2) := by
      simp only [step, if_neg hout]
    rw [pieces, piecesFrom_cons, piecesFrom_cons, hstep]
    rfl

theorem Underway.subpart (h : Underway p)
    (hstop : ∀ b ∈ rest.head?, ¬ (p.low.toNat ≤ b.toNat ∧ b.toNat ≤ p.high.toNat)) :
    Subpart p.seen rest := by
  refine subpart_of_broken h.seen (.inl (h.sound.begins h.range)) fun more hmore => ?_
  rw [h.reaches, piecesFrom_of_stop (hmore ▸ hstop)]
  exact ⟨_, rfl⟩

/-- A byte that begins no character is broken off alone. -/
theorem pieces_of_lead_none (hsmall : ¬ b < 0x80) (hlead : lead b = none) (rest : List UInt8) :
    pieces (b :: rest) = .broken [b] :: pieces rest := by
  rw [pieces, piecesFrom_cons]
  simp only [step, start, if_neg hsmall, hlead]
  rfl

/-- What is shown for bytes after a character under way. -/
def ShownAfter (p : Pending) (bytes : List UInt8) : Prop :=
  Shown (p.seen ++ bytes) ((piecesFrom (some p) bytes).map Piece.shown)

/-- A byte between characters: a character of its own, the first byte of one, or a subpart. -/
theorem shown_start (hrest : Shown rest ((pieces rest).map Piece.shown))
    (hmore : ∀ p, Underway p → ShownAfter p rest) (b : UInt8) :
    Shown (b :: rest) ((pieces (b :: rest)).map Piece.shown) := by
  by_cases hsmall : b < 0x80
  · have he := Encodes.one (UInt8.lt_iff_toNat_lt.mp hsmall)
    have hpieces := he.pieces rest
    rw [List.singleton_append] at hpieces
    rw [hpieces]
    exact .char he hrest
  · cases hlead : lead b with
    | some p =>
      obtain ⟨hseen, hp⟩ := lead_underway hlead
      have hshown := hmore p hp
      rwa [ShownAfter, ← hp.reaches, hseen] at hshown
    | none =>
      rw [pieces_of_lead_none hsmall hlead]
      have hpart : Subpart [b] rest :=
        subpart_of_broken (by simp) (.inr rfl) fun more _ =>
          ⟨_, pieces_of_lead_none hsmall hlead more⟩
      exact .subpart hpart hrest

/-- A byte that goes on with a character: its last one, or one more. -/
theorem Underway.shown_next (h : Underway p) (hrest : Shown rest ((pieces rest).map Piece.shown))
    (hmore : ∀ p, Underway p → ShownAfter p rest) (low : p.low.toNat ≤ b.toNat)
    (high : b.toNat ≤ p.high.toNat) : ShownAfter p (b :: rest) := by
  rw [ShownAfter, List.append_cons, piecesFrom_cons]
  by_cases howed : p.owed ≤ 1
  · obtain ⟨one, he⟩ := h.encodes howed low high
    rw [step_last one low high]
    exact .char he hrest
  · have hseveral := Nat.lt_of_not_le howed
    rw [step_more hseveral low high]
    exact hmore _ (h.more hseveral low high)

/-- What is shown for bytes, also after a character under way. The two go together, since a byte
that breaks a character off is read again as the first one of what follows. -/
theorem shown_piecesFrom (bytes : List UInt8) :
    Shown bytes ((pieces bytes).map Piece.shown) ∧ ∀ p, Underway p → ShownAfter p bytes := by
  induction bytes with
  | nil =>
    refine ⟨.nil, fun p h => ?_⟩
    rw [ShownAfter, piecesFrom_of_stop (by simp)]
    exact .subpart (h.subpart (by simp)) .nil
  | cons b rest ih =>
    obtain ⟨hrest, hmore⟩ := ih
    have hfirst := shown_start hrest hmore b
    refine ⟨hfirst, fun p hp => ?_⟩
    by_cases hb : p.low.toNat ≤ b.toNat ∧ b.toNat ≤ p.high.toNat
    · exact hp.shown_next hrest hmore hb.1 hb.2
    · have hstop : ∀ c ∈ (b :: rest).head?,
          ¬ (p.low.toNat ≤ c.toNat ∧ c.toNat ≤ p.high.toNat) := by
        rintro c ⟨⟩
        exact hb
      rw [ShownAfter, piecesFrom_of_stop hstop]
      exact .subpart (hp.subpart hstop) hfirst

/-- A byte string is shown as its characters, with one replacement character for each maximal invalid
subpart. -/
theorem shown_iff : Shown bytes cs ↔ cs = (lossy bytes).toList := by
  have hlossy : Shown bytes (lossy bytes).toList := by
    rw [lossy, String.toList_ofList]
    exact (shown_piecesFrom bytes).1
  exact ⟨fun h => h.unique hlossy, fun h => h ▸ hlossy⟩

/-- A text is shown as it is. -/
theorem lossy_encode (s : String) : lossy (encode s) = s := by
  have hshown : (s.toList.map Piece.scalar).map Piece.shown = s.toList := by
    rw [List.map_map]
    exact List.map_id' s.toList
  rw [lossy, pieces_encode, hshown, String.ofList_toList]

/-- Of three bytes of a longer character that the fourth breaks off, one replacement character is
left; the fourth is shown as what it is. -/
example : lossy [0xF0, 0x9F, 0x98, 0x41, 0xC0, 0x80] = "\uFFFDA\uFFFD\uFFFD" := by
  decide

end FileTransfer.Text.Utf8
