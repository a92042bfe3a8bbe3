import FileTransfer.Credentials.Token
import FileTransfer.Proofs.Text.Readable

/-! Tokens as diagnostics show them.

The diagnostic text of a token, on one line or over several, tells all of it but its secrets: tokens
with one text agree in everything else, whatever their texts hold (`Token.outline_faithful`). -/
namespace FileTransfer
namespace Token

variable {t u : Token}

/-- Tokens that agree in all but their secrets. -/
structure SamePublic (t u : Token) : Prop where
  expiresOn : t.expiresOn = u.expiresOn
  type : t.type = u.type
  tenant : t.tenant = u.tenant
  directory : t.directory = u.directory

theorem alike_outline (t u : Token) : t.outline.Alike u.outline :=
  .record _
    (.cons _ (.refl _)
      (.cons _ (.refl _)
        (.cons _ (.number _ _)
          (.cons _ (.quoted _ _)
            (.cons _ (.quoted _ _)
              (.cons _ (.quoted _ _) .nil))))))

theorem outline_eq_iff : t.outline = u.outline ↔ SamePublic t u := by
  constructor
  · intro h
    simp only [outline, Text.Outline.number, Text.Outline.record.injEq, List.cons.injEq,
      Prod.mk.injEq, true_and, and_true, Text.Outline.plain.injEq, Text.Outline.quoted.injEq,
      Text.Numeral.int_inj, Int64.toInt_inj] at h
    obtain ⟨hexpires, htype, htenant, hdirectory⟩ := h
    exact ⟨hexpires, htype, htenant, hdirectory⟩
  · rintro ⟨hexpires, htype, htenant, hdirectory⟩
    rw [outline, hexpires, htype, htenant, hdirectory, outline]

/-- Tokens have one diagnostic text, on one line or over several, just if they agree in all but
their secrets. -/
theorem outline_faithful (t u : Token) :
    (t.outline.line = u.outline.line ↔ SamePublic t u) ∧
      (t.outline.pretty = u.outline.pretty ↔ SamePublic t u) := by
  have halike := alike_outline t u
  exact ⟨halike.line_inj.trans outline_eq_iff, halike.pretty_inj.trans outline_eq_iff⟩

/-- A type that would end its quotes and go on with a tenant of its own. -/
example : ({ type := "Bearer\", tenant: \"x" } : Token).outline.line ≠
    ({ type := "Bearer", tenant := "x" } : Token).outline.line := by
  decide

end Token

end FileTransfer
