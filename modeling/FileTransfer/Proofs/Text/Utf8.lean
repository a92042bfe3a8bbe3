import FileTransfer.Text.Utf8

/-! Cutting bytes into characters and putting them together again are inverse.

`Encodes` is the table of the well-formed byte sequences. A character is encoded by one of them
(`encodes_encodeChar`), the encoding of whose number it is (`Encodes.encodeChar`), and each is read
as one piece (`Encodes.pieces`). So no byte is lost: the pieces of a byte string, put together, are
the byte string (`flatMap_bytes_pieces`), and a byte string is text just if it is the encoding of
one (`decode?_eq_some_iff`). -/
namespace FileTransfer.Text.Utf8

/-! ### Well-formed sequences -/

/-- A byte after the first. -/
structure IsTail (b : UInt8) : Prop where
  low : 0x80 ≤ b.toNat
  high : b.toNat ≤ 0xBF

/-- The well-formed byte sequences and the code points they stand for. The bounds on second bytes
keep out overlong forms, surrogates and what lies past the last code point. -/
inductive Encodes : List UInt8 → Nat → Prop where
  | one {a : UInt8} (first : a.toNat < 0x80) : Encodes [a] a.toNat
  | two {a b : UInt8} (first : 0xC2 ≤ a.toNat ∧ a.toNat ≤ 0xDF) (second : IsTail b) :
      Encodes [a, b] ((a.toNat - 0xC0) * 64 + (b.toNat - 0x80))
  | three {a b c : UInt8} (first : 0xE0 ≤ a.toNat ∧ a.toNat ≤ 0xEF) (second : IsTail b)
      (long : a.toNat = 0xE0 → 0xA0 ≤ b.toNat) (scalar : a.toNat = 0xED → b.toNat ≤ 0x9F)
      (third : IsTail c) :
      Encodes [a, b, c] (((a.toNat - 0xE0) * 64 + (b.toNat - 0x80)) * 64 + (c.toNat - 0x80))
  | four {a b c d : UInt8} (first : 0xF0 ≤ a.toNat ∧ a.toNat ≤ 0xF4) (second : IsTail b)
      (long : a.toNat = 0xF0 → 0x90 ≤ b.toNat) (last : a.toNat = 0xF4 → b.toNat ≤ 0x8F)
      (third : IsTail c) (fourth : IsTail d) :
      Encodes [a, b, c, d]
        ((((a.toNat - 0xF0) * 64 + (b.toNat - 0x80)) * 64 + (c.toNat - 0x80)) * 64 +
          (d.toNat - 0x80))

theorem toNat_val_ofNat {n : Nat} (h : n.isValidChar) : (Char.ofNat n).val.toNat = n := by
  rw [Char.ofNat, dif_pos h]
  rfl

/-- A well-formed sequence is the encoding of its character. -/
theorem Encodes.encodeChar {bytes : List UInt8} {n : Nat} (h : Encodes bytes n) :
    String.utf8EncodeChar (Char.ofNat n) = bytes := by
  cases h with
  | @one a first =>
    simp only [String.utf8EncodeChar, toNat_val_ofNat (n := a.toNat) (by omega)]
    rw [if_pos (by omega), UInt8.ofNat_toNat]
  | @two a b first second =>
    obtain ⟨hb, hb'⟩ := second
    simp only [String.utf8EncodeChar]
    rw [toNat_val_ofNat (by omega), if_neg (by omega), if_pos (by omega)]
    simp only [List.cons.injEq, ← UInt8.toNat_inj, UInt8.toNat_ofNat', and_true]
    omega
  | @three a b c first second long scalar third =>
    obtain ⟨⟨hb, hb'⟩, hc, hc'⟩ := And.intro second third
    simp only [String.utf8EncodeChar]
    rw [toNat_val_ofNat (by omega), if_neg (by omega), if_neg (by omega), if_pos (by omega)]
    simp only [List.cons.injEq, ← UInt8.toNat_inj, UInt8.toNat_ofNat', and_true]
    omega
  | @four a b c d first second long last third fourth =>
    obtain ⟨⟨hb, hb'⟩, ⟨hc, hc'⟩, hd, hd'⟩ := And.intro second (And.intro third fourth)
    simp only [String.utf8EncodeChar]
    rw [toNat_val_ofNat (by omega), if_neg (by omega), if_neg (by omega), if_neg (by omega)]
    simp only [List.cons.injEq, ← UInt8.toNat_inj, UInt8.toNat_ofNat', and_true]
    omega

/-- A byte with six bits of a code point is a byte after the first. -/
theorem isTail_ofNat (n : Nat) : IsTail (UInt8.ofNat (n % 64 + 128)) := by
  constructor <;> rw [UInt8.toNat_ofNat'] <;> omega

/-- The encoding of a character is well-formed. -/
theorem encodes_encodeChar (c : Char) : Encodes (String.utf8EncodeChar c) c.val.toNat := by
  have hvalid : c.val.toNat.isValidChar := c.valid
  simp only [String.utf8EncodeChar]
  generalize c.val.toNat = v at hvalid
  have toNat (n : Nat) (h : n < 256) : (UInt8.ofNat n).toNat = n := UInt8.toNat_ofNat_of_lt' h
  have tail (n : Nat) : (UInt8.ofNat (n % 64 + 128)).toNat = n % 64 + 128 := toNat _ (by omega)
  split
  · have h := Encodes.one (a := UInt8.ofNat v) (by rw [toNat v (by omega)]; omega)
    rwa [toNat v (by omega)] at h
  split
  · have ha := toNat (v / 64 % 32 + 192) (by omega)
    have h := Encodes.two (a := UInt8.ofNat (v / 64 % 32 + 192)) (by omega) (isTail_ofNat v)
    have hv : (v / 64 % 32 + 192 - 0xC0) * 64 + (v % 64 + 128 - 0x80) = v := by omega
    rwa [ha, tail, hv] at h
  split
  · have ha := toNat (v / 4096 % 16 + 224) (by omega)
    have h := Encodes.three (a := UInt8.ofNat (v / 4096 % 16 + 224)) (by omega)
      (isTail_ofNat (v / 64))
      (fun he => by rw [tail]; omega)
      (fun he => by rw [tail]; omega)
      (isTail_ofNat v)
    have hv : ((v / 4096 % 16 + 224 - 0xE0) * 64 + (v / 64 % 64 + 128 - 0x80)) * 64 +
        (v % 64 + 128 - 0x80) = v := by omega
    rwa [ha, tail, tail, hv] at h
  · have ha := toNat (v / 262144 % 8 + 240) (by omega)
    have h := Encodes.four (a := UInt8.ofNat (v / 262144 % 8 + 240)) (by omega)
      (isTail_ofNat (v / 4096))
      (fun he => by rw [tail]; omega)
      (fun he => by rw [tail]; omega)
      (isTail_ofNat (v / 64)) (isTail_ofNat v)
    have hv : (((v / 262144 % 8 + 240 - 0xF0) * 64 + (v / 4096 % 64 + 128 - 0x80)) * 64 +
        (v / 64 % 64 + 128 - 0x80)) * 64 + (v % 64 + 128 - 0x80) = v := by omega
    rwa [ha, tail, tail, tail, hv] at h

/-! ### First bytes -/

theorem lead_two {a : UInt8} (ha : 0xC2 ≤ a.toNat ∧ a.toNat ≤ 0xDF) :
    lead a = some ⟨[a], a.toNat - 0xC0, 1, 0x80, 0xBF⟩ := by
  rw [lead, if_pos ⟨UInt8.le_iff_toNat_le.mpr ha.1, UInt8.le_iff_toNat_le.mpr ha.2⟩]

theorem lead_three {a : UInt8} (ha : 0xE0 ≤ a.toNat ∧ a.toNat ≤ 0xEF) :
    lead a = some ⟨[a], a.toNat - 0xE0, 2, if a = 0xE0 then 0xA0 else 0x80,
      if a = 0xED then 0x9F else 0xBF⟩ := by
  by_cases h0 : a = 0xE0
  · subst h0
    rfl
  by_cases hd : a = 0xED
  · subst hd
    rfl
  have hne : a.toNat ≠ 0xE0 := fun h => h0 (UInt8.toNat_inj.mp h)
  simp only [lead, UInt8.le_iff_toNat_le, UInt8.reduceToNat, h0, hd, if_false]
  rw [if_neg (by omega), if_pos (by omega)]

theorem lead_four {a : UInt8} (ha : 0xF0 ≤ a.toNat ∧ a.toNat ≤ 0xF4) :
    lead a = some ⟨[a], a.toNat - 0xF0, 3, if a = 0xF0 then 0x90 else 0x80,
      if a = 0xF4 then 0x8F else 0xBF⟩ := by
  by_cases h0 : a = 0xF0
  · subst h0
    rfl
  by_cases h4 : a = 0xF4
  · subst h4
    rfl
  simp only [← UInt8.toNat_inj, UInt8.reduceToNat] at h0 h4
  simp only [lead, UInt8.le_iff_toNat_le, ← UInt8.toNat_inj, UInt8.reduceToNat]
  rw [if_neg (by omega), if_neg (by omega), if_neg (by omega), if_neg (by omega),
    if_neg (by omega), if_pos (by omega), if_neg (by omega), if_neg (by omega)]

/-- All other bytes begin no longer character. -/
theorem lead_eq_none {a : UInt8} (ha : a.toNat < 0xC2 ∨ 0xF4 < a.toNat) : lead a = none := by
  simp only [lead, UInt8.le_iff_toNat_le, ← UInt8.toNat_inj, UInt8.reduceToNat]
  rw [if_neg (by omega), if_neg (by omega), if_neg (by omega), if_neg (by omega),
    if_neg (by omega), if_neg (by omega), if_neg (by omega)]

theorem step_none {a : UInt8} {p : Pending} (h : lead a = some p) (ha : 0x80 ≤ a.toNat) :
    step none a = ([], some p) := by
  have hlarge : ¬ a < 0x80 := fun hlt => Nat.not_lt.mpr ha (UInt8.lt_iff_toNat_lt.mp hlt)
  simp only [step, start, if_neg hlarge, h]

/-! ### Reading a well-formed sequence -/

theorem step_last {p : Pending} {b : UInt8} (owed : p.owed = 1) (low : p.low.toNat ≤ b.toNat)
    (high : b.toNat ≤ p.high.toNat) :
    step (some p) b = ([.scalar (Char.ofNat (p.value * 64 + (b.toNat - 0x80)))], none) := by
  simp [step, owed, UInt8.le_iff_toNat_le, low, high]

theorem step_more {p : Pending} {b : UInt8} (owed : 1 < p.owed) (low : p.low.toNat ≤ b.toNat)
    (high : b.toNat ≤ p.high.toNat) :
    step (some p) b =
      ([], some ⟨p.seen ++ [b], p.value * 64 + (b.toNat - 0x80), p.owed - 1, 0x80, 0xBF⟩) := by
  simp [step, Nat.not_le.mpr owed, UInt8.le_iff_toNat_le, low, high]

/-- A bound that is narrowed after one first byte. -/
theorem narrowed_le_iff {c : Prop} [Decidable c] {x y b : UInt8} (hxy : y.toNat ≤ x.toNat) :
    (if c then x else y).toNat ≤ b.toNat ↔ (c → x.toNat ≤ b.toNat) ∧ y.toNat ≤ b.toNat := by
  split
  · next hc => exact ⟨fun h => ⟨fun _ => h, Nat.le_trans hxy h⟩, fun h => h.1 hc⟩
  · next hc => exact ⟨fun h => ⟨fun hc' => absurd hc' hc, h⟩, fun h => h.2⟩

theorem le_narrowed_iff {c : Prop} [Decidable c] {x y b : UInt8} (hxy : x.toNat ≤ y.toNat) :
    b.toNat ≤ (if c then x else y).toNat ↔ (c → b.toNat ≤ x.toNat) ∧ b.toNat ≤ y.toNat := by
  split
  · next hc => exact ⟨fun h => ⟨fun _ => h, Nat.le_trans h hxy⟩, fun h => h.1 hc⟩
  · next hc => exact ⟨fun h => ⟨fun hc' => absurd hc' hc, h⟩, fun h => h.2⟩

/-- A well-formed sequence is read as one piece, whatever comes after it. -/
theorem Encodes.pieces {bytes : List UInt8} {n : Nat} (h : Encodes bytes n) (rest : List UInt8) :
    pieces (bytes ++ rest) = .scalar (Char.ofNat n) :: pieces rest := by
  cases h with
  | @one a first =>
    have hsmall : a < 0x80 := UInt8.lt_iff_toNat_lt.mpr first
    simp [Utf8.pieces, piecesFrom_cons, step, start, hsmall]
  | @two a b first second =>
    have hfirst := step_none (lead_two first) (by omega)
    have hsecond := step_last (p := ⟨[a], a.toNat - 0xC0, 1, 0x80, 0xBF⟩) rfl second.low second.high
    simp [Utf8.pieces, piecesFrom_cons, hfirst, hsecond]
  | @three a b c first second long scalar third =>
    have hfirst := step_none (lead_three first) (by omega)
    have hsecond := step_more (p := ⟨[a], a.toNat - 0xE0, 2, if a = 0xE0 then 0xA0 else 0x80,
      if a = 0xED then 0x9F else 0xBF⟩) (Nat.lt_succ_self 1)
      ((narrowed_le_iff (by decide)).mpr ⟨fun h => long (congrArg UInt8.toNat h), second.low⟩)
      ((le_narrowed_iff (by decide)).mpr ⟨fun h => scalar (congrArg UInt8.toNat h), second.high⟩)
    have hthird := step_last (p := ⟨[a, b], (a.toNat - 0xE0) * 64 + (b.toNat - 0x80), 1, 0x80,
      0xBF⟩) rfl third.low third.high
    simp [Utf8.pieces, piecesFrom_cons, hfirst, hsecond, hthird]
  | @four a b c d first second long last third fourth =>
    have hfirst := step_none (lead_four first) (by omega)
    have hsecond := step_more (p := ⟨[a], a.toNat - 0xF0, 3, if a = 0xF0 then 0x90 else 0x80,
      if a = 0xF4 then 0x8F else 0xBF⟩) (Nat.lt_succ_of_lt (Nat.lt_succ_self 1))
      ((narrowed_le_iff (by decide)).mpr ⟨fun h => long (congrArg UInt8.toNat h), second.low⟩)
      ((le_narrowed_iff (by decide)).mpr ⟨fun h => last (congrArg UInt8.toNat h), second.high⟩)
    have hthird := step_more (p := ⟨[a, b], (a.toNat - 0xF0) * 64 + (b.toNat - 0x80), 2, 0x80,
      0xBF⟩) (Nat.lt_succ_self 1) third.low third.high
    have hfourth := step_last (p := ⟨[a, b, c],
      ((a.toNat - 0xF0) * 64 + (b.toNat - 0x80)) * 64 + (c.toNat - 0x80), 1, 0x80, 0xBF⟩) rfl
      fourth.low fourth.high
    simp [Utf8.pieces, piecesFrom_cons, hfirst, hsecond, hthird, hfourth]

/-! ### Pieces put together -/

/-- The bytes that a piece was cut from. -/
def Piece.bytes : Piece → List UInt8
  | .scalar c => String.utf8EncodeChar c
  | .broken bytes => bytes

/-- The bytes that the reader keeps back. -/
def keptBack : Option Pending → List UInt8
  | none => []
  | some p => p.seen

/-- A character under way that becomes a well-formed sequence as long as its bounds are met. -/
inductive Pending.Sound : Pending → Prop where
  | last {p : Pending} (owed : p.owed = 1)
      (whole : ∀ b : UInt8, p.low.toNat ≤ b.toNat → b.toNat ≤ p.high.toNat →
        Encodes (p.seen ++ [b]) (p.value * 64 + (b.toNat - 0x80))) :
      Sound p
  | more {p : Pending} (owed : 1 < p.owed)
      (next : ∀ b : UInt8, p.low.toNat ≤ b.toNat → b.toNat ≤ p.high.toNat →
        Sound ⟨p.seen ++ [b], p.value * 64 + (b.toNat - 0x80), p.owed - 1, 0x80, 0xBF⟩) :
      Sound p

theorem lead_sound {a : UInt8} {p : Pending} (h : lead a = some p) : p.seen = [a] ∧ p.Sound := by
  by_cases h2 : 0xC2 ≤ a.toNat ∧ a.toNat ≤ 0xDF
  · rw [lead_two h2] at h
    cases h
    exact ⟨rfl, .last rfl fun b hb hb' => .two h2 ⟨hb, hb'⟩⟩
  by_cases h3 : 0xE0 ≤ a.toNat ∧ a.toNat ≤ 0xEF
  · rw [lead_three h3] at h
    cases h
    refine ⟨rfl, .more (Nat.lt_succ_self 1) fun b hb hb' => .last rfl fun c hc hc' => ?_⟩
    obtain ⟨hlong, hlow⟩ := (narrowed_le_iff (by decide)).mp hb
    obtain ⟨hscalar, hhigh⟩ := (le_narrowed_iff (by decide)).mp hb'
    exact .three h3 ⟨hlow, hhigh⟩ (fun ha => hlong (UInt8.toNat_inj.mp ha))
      (fun ha => hscalar (UInt8.toNat_inj.mp ha)) ⟨hc, hc'⟩
  by_cases h4 : 0xF0 ≤ a.toNat ∧ a.toNat ≤ 0xF4
  · rw [lead_four h4] at h
    cases h
    refine ⟨rfl, .more (Nat.lt_succ_of_lt (Nat.lt_succ_self 1)) fun b hb hb' =>
      .more (Nat.lt_succ_self 1) fun c hc hc' => .last rfl fun d hd hd' => ?_⟩
    obtain ⟨hlong, hlow⟩ := (narrowed_le_iff (by decide)).mp hb
    obtain ⟨hlast, hhigh⟩ := (le_narrowed_iff (by decide)).mp hb'
    exact .four h4 ⟨hlow, hhigh⟩ (fun ha => hlong (UInt8.toNat_inj.mp ha))
      (fun ha => hlast (UInt8.toNat_inj.mp ha)) ⟨hc, hc'⟩ ⟨hd, hd'⟩
  · rw [lead_eq_none (by omega)] at h
    cases h

/-- A byte between characters is completed or kept back. -/
theorem start_spec (b : UInt8) :
    (start b).1.flatMap Piece.bytes ++ keptBack (start b).2 = [b] ∧
      ∀ p ∈ (start b).2, p.Sound := by
  unfold start
  split
  · next hb =>
    have hone := (Encodes.one (UInt8.lt_iff_toNat_lt.mp hb)).encodeChar
    simp [Piece.bytes, keptBack, hone]
  split
  · next p hp =>
    obtain ⟨hseen, hsound⟩ := lead_sound hp
    simpa [keptBack, hseen] using hsound
  · simp [Piece.bytes, keptBack]

/-- A byte is added to what is completed and what is kept back. -/
theorem step_spec {state : Option Pending} (h : ∀ p ∈ state, p.Sound) (b : UInt8) :
    (step state b).1.flatMap Piece.bytes ++ keptBack (step state b).2 = keptBack state ++ [b] ∧
      ∀ p ∈ (step state b).2, p.Sound := by
  cases state with
  | none => exact start_spec b
  | some p =>
    by_cases hb : p.low.toNat ≤ b.toNat ∧ b.toNat ≤ p.high.toNat
    · cases h p rfl with
      | last owed whole =>
        rw [step_last owed hb.1 hb.2]
        simp [Piece.bytes, keptBack, (whole b hb.1 hb.2).encodeChar]
      | more owed next =>
        rw [step_more owed hb.1 hb.2]
        simpa [keptBack] using next b hb.1 hb.2
    · obtain ⟨hbytes, hsound⟩ := start_spec b
      simp only [step, UInt8.le_iff_toNat_le, if_neg hb]
      refine ⟨?_, hsound⟩
      rw [List.flatMap_cons, List.append_assoc, hbytes]
      rfl

theorem flatMap_bytes_piecesFrom {state : Option Pending} (h : ∀ p ∈ state, p.Sound)
    (bytes : List UInt8) :
    (piecesFrom state bytes).flatMap Piece.bytes = keptBack state ++ bytes := by
  induction bytes generalizing state with
  | nil => cases state <;> simp [piecesFrom, Piece.bytes, keptBack]
  | cons b rest ih =>
    obtain ⟨hbytes, hsound⟩ := step_spec h b
    rw [piecesFrom_cons, List.flatMap_append, ih hsound, ← List.append_assoc, hbytes,
      List.append_assoc, List.singleton_append]

/-- No byte is lost when bytes are cut into pieces. -/
theorem flatMap_bytes_pieces (bytes : List UInt8) : (pieces bytes).flatMap Piece.bytes = bytes :=
  flatMap_bytes_piecesFrom (by simp) bytes

/-! ### Texts -/

/-- The pieces of an encoded text are its characters. -/
theorem pieces_encode (s : String) : pieces (encode s) = s.toList.map .scalar := by
  unfold encode
  induction s.toList with
  | nil => rfl
  | cons c rest ih =>
    have hc : Char.ofNat c.val.toNat = c := Char.ofNat_toNat c
    rw [List.flatMap_cons, (encodes_encodeChar c).pieces, hc, ih, List.map_cons]

theorem mapM_scalar? {ps : List Piece} {cs : List Char} :
    ps.mapM Piece.scalar? = some cs ↔ ps = cs.map .scalar := by
  induction ps generalizing cs with
  | nil => cases cs <;> simp
  | cons p rest ih =>
    cases p with
    | broken bytes => cases cs <;> simp [Piece.scalar?]
    | scalar c =>
      have hcons : (Piece.scalar c :: rest).mapM Piece.scalar? = some cs ↔
          ∃ ds, rest.mapM Piece.scalar? = some ds ∧ c :: ds = cs := by
        simp [Piece.scalar?, Option.bind_eq_some_iff]
      rw [hcons]
      constructor
      · rintro ⟨ds, hds, rfl⟩
        rw [ih.mp hds, List.map_cons]
      · intro h
        cases cs with
        | nil => cases h
        | cons d ds =>
          cases h
          exact ⟨ds, ih.mpr rfl, rfl⟩

/-- A byte string is text just if it is the encoding of this text. -/
theorem decode?_eq_some_iff {bytes : List UInt8} {s : String} :
    decode? bytes = some s ↔ bytes = encode s := by
  rw [decode?, Option.map_eq_some_iff]
  constructor
  · rintro ⟨cs, hcs, rfl⟩
    rw [← flatMap_bytes_pieces bytes, mapM_scalar?.mp hcs, encode, String.toList_ofList,
      List.flatMap_map]
    rfl
  · rintro rfl
    exact ⟨s.toList, mapM_scalar?.mpr (pieces_encode s), String.ofList_toList⟩

end FileTransfer.Text.Utf8
