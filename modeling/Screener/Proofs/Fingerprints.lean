import Screener.Proofs.Saved
import Screener.Record

namespace Screener

theorem Text.encode_inj {text other : Text} : text.encode = other.encode ↔ text = other := by
  refine ⟨fun h => ?_, fun h => h ▸ rfl⟩
  have hsame := text.decode?_encode
  rw [h, other.decode?_encode] at hsame
  exact (Option.some.inj hsame).symm

theorem Token.Kind.name_inj {kind other : Kind} : kind.name = other.name ↔ kind = other := by
  refine ⟨fun h => ?_, fun h => h ▸ rfl⟩
  have hsame := ofName?_name kind
  rw [h, ofName?_name] at hsame
  exact (Option.some.inj hsame).symm

def Token.pair (token : Token) : Json := .arr [.str token.kind.name, .str token.text]

theorem Token.pair_injective : Function.Injective pair := by
  rintro ⟨kind, text⟩ ⟨other, more⟩ h
  simp only [pair, JsonOf.arr.injEq, List.cons.injEq, JsonOf.str.injEq, and_true] at h
  rw [Kind.name_inj.1 h.1, h.2]

def Sha256.shortDigest (bytes : Bytes) : Text := (hash bytes.toList).hex.take 12

namespace Record

def fingerprintBytes (record : Record) : Bytes := record.fingerprintText.encode

variable {record other : Record}

theorem fingerprint_eq (record : Record) : record.fingerprint = Sha256.shortDigest record.fingerprintBytes := rfl

theorem isTextual_pairs (tokens : Formula) (depth : Nat) : Json.IsTextual (depth + 2) (.arr (tokens.map Token.pair)) := by
  refine .arr ?_
  rw [List.forall_mem_map]
  intro token _
  refine .arr ?_
  simp only [List.forall_mem_cons, List.not_mem_nil, false_implies, implies_true, and_true]
  exact ⟨.str _, .str _⟩

theorem fingerprintText_inj : record.fingerprintText = other.fingerprintText ↔ record.tokens = other.tokens := by
  have hwritten := (isTextual_pairs record.tokens 987).compact_inj (isTextual_pairs other.tokens 987)
  exact hwritten.trans (by rw [JsonOf.arr.injEq, Token.pair_injective.list_map.eq_iff])

theorem fingerprintBytes_inj : record.fingerprintBytes = other.fingerprintBytes ↔ record.tokens = other.tokens :=
  Text.encode_inj.trans fingerprintText_inj

theorem fingerprint_eq_of_tokens (h : record.tokens = other.tokens) : record.fingerprint = other.fingerprint := by
  rw [fingerprint_eq, fingerprint_eq, fingerprintBytes_inj.2 h]

/-- Two records, whatever their names, descriptions and equations, are digested from the same bytes exactly if they have
the same tokens.  So they have the same fingerprint if they have the same tokens, and else only where the short digest
is the same for the different bytes that they are digested from. -/
theorem fingerprint_of_tokens (record other : Record) :
    (record.fingerprintBytes = other.fingerprintBytes ↔ record.tokens = other.tokens) ∧
      (record.tokens = other.tokens → record.fingerprint = other.fingerprint) ∧
      (record.tokens ≠ other.tokens → record.fingerprint = other.fingerprint →
        record.fingerprintBytes ≠ other.fingerprintBytes ∧
          Sha256.shortDigest record.fingerprintBytes = Sha256.shortDigest other.fingerprintBytes) := by
  refine ⟨fingerprintBytes_inj, fingerprint_eq_of_tokens, fun htokens hsame => ⟨?_, ?_⟩⟩
  · exact fun hbytes => htokens (fingerprintBytes_inj.1 hbytes)
  · rw [← fingerprint_eq, ← fingerprint_eq, hsame]

/-- A digest that is known. -/
example : Sha256.digest "abc" = "ba7816bf8f01cfea414140de5dae2223b00361a396177a9cb410ff61f20015ad" := by decide +kernel

end Record

end Screener
