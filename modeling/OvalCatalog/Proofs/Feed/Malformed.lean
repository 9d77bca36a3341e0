import OvalCatalog.Feed.Fetch
import OvalCatalog.Proofs.Result

/-! Feed files that cannot be read. Whatever is wrong with a file, it is told to be malformed, but for two flaws
whose errors are those of the libraries below: an archive that is cut short, and a document that declares an
encoding which the parser cannot use. -/

namespace OvalCatalog

namespace Xml.Document

/-- The document declares an encoding that is not one of the parser's own and that the parser cannot use: nobody knows
it, or it takes several bytes to a character, or it is for no text. An incompatible one is a flaw of the document. -/
def DeclaresUnusableEncoding (bytes : List UInt8) : Prop :=
  let start := (Encoding.detect bytes).1
  Encoding.isUndecided bytes = false ∧ ∃ d length name here e,
    cutDeclaration (characters start (Encoding.detect bytes).2) = .ok (d, length) ∧
      d.encoding = some (name, here) ∧ start.registered? name = none ∧
        Charset.find name = .error e ∧ e ≠ .incompatible

theorem fault_ne_encoding (start : Encoding) (bytes : List UInt8) (f : Flaw) (e : Charset.LookupError) :
    fault start bytes f ≠ .encoding e := by
  unfold fault
  nofun

theorem declared_encoding_iff (start : Encoding) (bytes : List UInt8) (rest : Nat) (d : Declaration)
    (e : Charset.LookupError) :
    declared start bytes rest d = .error (.encoding e) ↔ ∃ name here, d.encoding = some (name, here) ∧
      start.registered? name = none ∧ Charset.find name = .error e ∧ e ≠ .incompatible := by
  unfold declared
  cases d.encoding with
  | none => simp
  | some p =>
    obtain ⟨name, here⟩ := p
    simp only [Option.some.injEq, Prod.mk.injEq, and_assoc, exists_and_left, exists_eq_left']
    cases start.registered? name with
    | some own =>
      dsimp only
      split <;> simp [fault_ne_encoding]
    | none =>
      cases Charset.find name with
      | ok c => simp
      | error e' =>
        by_cases he' : e' = .incompatible
        · subst he'
          refine iff_of_false ?_ ?_
          · simp [fault_ne_encoding]
          · rintro ⟨_, he, hne⟩
            exact hne (Except.error.inj he).symm
        · simp only [true_and, Except.error.injEq, Fault.encoding.injEq]
          rw [iff_self_and]
          rintro rfl
          exact he'

theorem parse_encoding_iff (bytes : List UInt8) :
    (∃ e, parse bytes = .error (.encoding e)) ↔ DeclaresUnusableEncoding bytes := by
  unfold parse DeclaresUnusableEncoding
  cases Encoding.isUndecided bytes with
  | true => exact iff_of_false nofun fun h => Bool.noConfusion h.1
  | false =>
    rcases Encoding.detect bytes with ⟨start, text⟩
    simp only [true_and, Bool.false_eq_true, if_false]
    simp only [bind_eq_error_iff, mapError_eq_error_iff, mapError_eq_ok_iff, fault_ne_encoding,
      and_false, exists_false, false_or, Prod.exists, pure, Except.pure, reduceCtorEq, or_false,
      declared_encoding_iff]
    constructor
    · rintro ⟨e, d, length, hcut, name, here, h⟩
      exact ⟨d, length, name, here, e, hcut, h⟩
    · rintro ⟨d, length, name, here, e, hcut, h⟩
      exact ⟨e, d, length, hcut, name, here, h⟩

end Xml.Document

namespace Oval

open Xml (Element)

theorem timestampOf_ne_encoding (target : Target) (root : Element) (e : Charset.LookupError) :
    timestampOf target root ≠ .error (.encoding e) := by
  unfold timestampOf readTimestamp
  split
  · nofun
  · split <;> nofun

theorem convert_ne_encoding (target : Target) (elements : List Element) (e : Charset.LookupError) :
    convert target elements ≠ .error (.encoding e) := by
  induction elements with
  | nil => nofun
  | cons element rest ih =>
    rw [convert]
    split
    · nofun
    · simp [bind_eq_error_iff, ih, pure, Except.pure]

theorem Document.parse_encoding_iff (target : Target) (bytes : List UInt8) :
    (∃ e, Document.parse target bytes = .error (.encoding e)) ↔ Xml.Document.DeclaresUnusableEncoding bytes := by
  rw [← Xml.Document.parse_encoding_iff]
  unfold Document.parse
  cases Xml.Document.parse bytes with
  | error fault => cases fault <;> simp
  | ok root =>
    simp only [ofElement, bind_eq_error_iff, timestampOf_ne_encoding, convert_ne_encoding]
    simp [pure, Except.pure]

end Oval

namespace Feed

variable {ε : Type}

def FetchError.isMalformed : FetchError ε → Bool
  | .badArchive _ => true
  | .document (.encoding _) => false
  | .document _ => true
  | .download _ | .shortArchive => false

def isReadOrMalformed : Except (FetchError ε) Fetched → Bool
  | .ok _ => true
  | .error e => e.isMalformed

def Target.plain (t : Target) (bytes : List UInt8) : Except Bzip2.Fault (List UInt8) :=
  if t.isArchive then Bzip2.decompress bytes else .ok bytes

theorem unpack_eq (t : Target) (bytes : List UInt8) :
    unpack (ε := ε) t bytes = (t.plain bytes).mapError fun
      | .invalid => .badArchive t.url
      | .truncated => .shortArchive := by
  unfold unpack Target.plain
  split
  · cases Bzip2.decompress bytes with
    | ok bytes => rfl
    | error e => cases e <;> rfl
  · rfl

theorem fetch_eq (server : String → Except ε (List UInt8)) (t : Target) :
    fetch server t = match server t.url with
      | .error e => .error (.download e)
      | .ok bytes =>
        match t.plain bytes with
        | .error .invalid => .error (.badArchive t.url)
        | .error .truncated => .error .shortArchive
        | .ok plain =>
          match Oval.Document.parse ⟨t.family, t.osVersion⟩ plain with
          | .error e => .error (.document e)
          | .ok d => .ok (Fetched.of t d) := by
  unfold fetch
  cases server t.url with
  | error e => rfl
  | ok bytes =>
    -- The download has succeeded; what is left to do starts with unpacking.
    change (unpack t bytes >>= _) = _
    rw [unpack_eq]
    dsimp only
    cases t.plain bytes with
    | error fault => cases fault <;> rfl
    | ok plain =>
      change ((Oval.Document.parse ⟨t.family, t.osVersion⟩ plain).mapError FetchError.document >>= _) = _
      dsimp only
      cases Oval.Document.parse ⟨t.family, t.osVersion⟩ plain <;> rfl

theorem isMalformed_document_iff (e : Oval.DocumentError) :
    (FetchError.document e : FetchError ε).isMalformed = true ↔ ¬∃ e', e = .encoding e' := by
  cases e <;> simp [FetchError.isMalformed]

/-- What becomes of a file that is served. It is read in full and for the target that it was asked for, or it
is told to be malformed, just if it is no archive that is cut short and declares no encoding that the parser
cannot use. -/
theorem fetch_malformed_iff (server : String → Except ε (List UInt8)) (t : Target) :
    match server t.url with
    | .error e => fetch server t = .error (.download e)
    | .ok bytes =>
      (∀ x, fetch server t = .ok x → x.target = t ∧ x.root.family = some t.family ∧
        x.root.osVersion = some t.osVersion ∧ x.file.fileName = some t.fileName) ∧
      (isReadOrMalformed (fetch server t) = true ↔
        t.plain bytes ≠ .error .truncated ∧
          ∀ plain, t.plain bytes = .ok plain → ¬Xml.Document.DeclaresUnusableEncoding plain) := by
  rw [fetch_eq]
  cases server t.url with
  | error e => rfl
  | ok bytes =>
    dsimp only
    cases t.plain bytes with
    | error fault =>
      cases fault with
      | invalid => simp [isReadOrMalformed, FetchError.isMalformed]
      | truncated => simp [isReadOrMalformed, FetchError.isMalformed]
    | ok plain =>
      have hencoding := Oval.Document.parse_encoding_iff ⟨t.family, t.osVersion⟩ plain
      simp only [Except.ok.injEq, forall_eq', ← hencoding]
      cases Oval.Document.parse ⟨t.family, t.osVersion⟩ plain with
      | ok d =>
        refine ⟨?_, by simp [isReadOrMalformed]⟩
        rintro x ⟨⟩
        exact ⟨rfl, rfl, rfl, rfl⟩
      | error e => simp [isReadOrMalformed, isMalformed_document_iff]

theorem flaws_told_otherwise :
    let serving (bytes : List UInt8) : String → Except String (List UInt8) := fun _ => .ok bytes
    isReadOrMalformed (fetch (serving [0x42]) ⟨"debian", "9", "http://h/a.xml.bz2"⟩) = false ∧
      isReadOrMalformed (fetch (serving "<?xml version='1.0' encoding='none'?><d/>".toUTF8.toList)
        ⟨"debian", "9", "http://h/a.xml"⟩) = false := by
  decide +kernel

end Feed

end OvalCatalog
