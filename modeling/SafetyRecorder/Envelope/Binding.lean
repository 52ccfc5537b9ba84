import SafetyRecorder.Envelope.Seal

namespace SafetyRecorder.Envelope

open Wire Checked

/-!
# What a decryption proves

Take any family of honest `Encrypt` calls and let the primitives be ideal for it: only what
these calls sealed opens, and neither a key they derived nor a digest they computed has a second
pre-image.  Then an envelope that decrypts, whatever it was put together from, is one of theirs.

* `Sealed`, `Hashed` — what a call sealed and hashed;
* `Primitives.Ideal` — ideal primitives for a family of calls;
* `cekWrapAAD_ne_header` — associated data of a wrapped key is never a payload header, so a
  wrapped key and a payload are not taken for each other;
* `unwrapped` — a record whose key unwraps is a record of the call that has the frame's header;
* `decrypt_binding` — frame, record, context and plaintext belong to one call.
-/

/-! ### Ideal primitives -/

section Honest

variable {P : Primitives}

/-- What a call sealed: key, nonce, plaintext, ciphertext and associated data. -/
inductive Sealed (c : Call P) (t : Trace) : Bytes → Bytes → Bytes → Bytes → Bytes → Prop where
  | payload : Sealed c t c.draws.cek c.draws.payloadNonce c.plaintext t.payloadCiphertext
      t.headerBytes
  | wrap {w : Wrapped} : w ∈ t.wraps →
      Sealed c t w.kek w.wrapNonce c.draws.cek w.wrappedCEK w.wrapAAD

/-- What a call hashed and compares again on decryption. -/
inductive Hashed (t : Trace) : Bytes → Prop where
  | header : Hashed t t.headerBytes
  | kem {w : Wrapped} : w ∈ t.wraps → Hashed t w.kemCiphertext

end Honest

namespace Primitives

variable (P : Primitives) {ι : Type}

/-- **Ideal primitives** for a family of calls with their traces. -/
structure Ideal (calls : ι → Call P) (traces : ι → Trace) : Prop where
  /-- Only what a call sealed opens, under the same key, nonce and associated data. -/
  aead : ∀ key nonce ciphertext aad plaintext,
    P.gcmOpen key nonce ciphertext aad = some plaintext →
    ∃ i, Sealed (calls i) (traces i) key nonce plaintext ciphertext aad
  /-- A derived key comes from one secret, salt and context. -/
  kdf : ∀ i, ∀ w ∈ (traces i).wraps, ∀ ss salt info : Bytes,
    (P.hkdfExpand (P.hkdfExtract ss salt) info : Bytes) = w.kek →
    ss = w.sharedSecret ∧ salt = w.salt ∧ info = w.info
  /-- A digest comes from one byte string. -/
  digest : ∀ i b, Hashed (traces i) b → ∀ b', (P.sha384 b' : Bytes) = P.sha384 b → b' = b
  /-- No two calls draw the same content key with the same nonce. -/
  fresh : ∀ i j, ((calls i).draws.cek : Bytes) = (calls j).draws.cek →
    ((calls i).draws.payloadNonce : Bytes) = (calls j).draws.payloadNonce → i = j

end Primitives

/-! ### Payloads and wrapped keys are kept apart -/

/-- The associated data of a wrapped key has fourteen fields, a payload header has eleven. -/
theorem cekWrapAAD_ne_header {ctx : PayloadContext} {e d b : Bytes} {r : Recipient}
    {h : PayloadHeader} (haad : cekWrapAAD ctx e r d = .ok b) :
    encodePayloadHeader h ≠ .ok b := by
  intro hheader
  have hfields := encodeCanonicalFields_injective haad (encodePayloadHeader_eq_ok.mp hheader).2.2
  have hlen := congrArg List.length hfields
  exact absurd hlen (by decide : (14 : Nat) ≠ 11)

namespace Primitives

variable {P : Primitives} {ι : Type} {calls : ι → Call P} {traces : ι → Trace}

variable {key nonce plaintext ciphertext aad : Bytes}

/-- What a call computed for one of its recipients. -/
theorem wrapSpec_of_mem {c : Call P} {t : Trace} (h : P.encryptTrace c = .ok t) {w : Wrapped}
    (hw : w ∈ t.wraps) : ∃ n d, P.WrapSpec c (P.sha384 t.headerBytes) n d w := by
  obtain ⟨-, n, d, -, hwrap⟩ := (P.wrapRecipients_eq_ok (P.encryptTrace_eq_ok h).wraps).only w hw
  exact ⟨n, d, hwrap⟩

/-- What opens under associated data of a wrapped key is a wrapped key. -/
theorem Ideal.wrap (hideal : P.Ideal calls traces)
    (hcalls : ∀ i, P.encryptTrace (calls i) = .ok (traces i))
    (hopen : P.gcmOpen key nonce ciphertext aad = some plaintext)
    {ctx : PayloadContext} {e d : Bytes} {r : Recipient} (haad : cekWrapAAD ctx e r d = .ok aad) :
    ∃ i, ∃ w ∈ (traces i).wraps, key = w.kek ∧ nonce = w.wrapNonce ∧
      plaintext = (calls i).draws.cek ∧ ciphertext = w.wrappedCEK ∧ aad = w.wrapAAD := by
  obtain ⟨i, hsealed⟩ := hideal.aead _ _ _ _ _ hopen
  cases hsealed with
  | payload => exact absurd (P.encryptTrace_eq_ok (hcalls i)).header (cekWrapAAD_ne_header haad)
  | wrap hw => exact ⟨i, _, hw, rfl, rfl, rfl, rfl, rfl⟩

/-- What opens under a payload header is a payload. -/
theorem Ideal.payload (hideal : P.Ideal calls traces)
    (hcalls : ∀ i, P.encryptTrace (calls i) = .ok (traces i))
    (hopen : P.gcmOpen key nonce ciphertext aad = some plaintext) {h : PayloadHeader}
    (hheader : encodePayloadHeader h = .ok aad) :
    ∃ i, key = (calls i).draws.cek ∧ nonce = (calls i).draws.payloadNonce ∧
      plaintext = (calls i).plaintext ∧ ciphertext = (traces i).payloadCiphertext ∧
      aad = (traces i).headerBytes := by
  obtain ⟨i, hsealed⟩ := hideal.aead _ _ _ _ _ hopen
  cases hsealed with
  | payload => exact ⟨i, rfl, rfl, rfl, rfl, rfl⟩
  | wrap hw =>
    obtain ⟨n, d, hwrap⟩ := wrapSpec_of_mem (hcalls i) hw
    exact absurd hheader (cekWrapAAD_ne_header hwrap.aad)

/-! ### The record and the frame -/

/-- **A record whose key unwraps** under the metadata's associated data is a record of a call
    whose header is the frame's, for the metadata's media key, salt and recipient. -/
theorem Ideal.unwrapped (hideal : P.Ideal calls traces)
    (hcalls : ∀ i, P.encryptTrace (calls i) = .ok (traces i))
    {data : PublicWrappingMetadata} {ctx : PayloadContext} {header : PayloadHeader}
    {headerBytes : Bytes} {frame : WrappedKeyFrame} {s a ss info kek cek : Bytes}
    (hdata : P.MetadataSpec data ctx header (P.sha384 headerBytes) frame s a)
    (hinfo : hkdfInfo header.envelopeID data.recipientKeyID (P.sha384 frame.kemCiphertext)
      (P.sha384 headerBytes) = .ok info)
    (hkek : P.deriveKEK ss s info = .ok kek)
    (hcek : P.gcmOpen kek frame.wrapNonce frame.wrappedCEK a = some cek) :
    ∃ i, ∃ w ∈ (traces i).wraps, headerBytes = (traces i).headerBytes ∧
      cek = (calls i).draws.cek ∧ ctx.mediaKeyID = (calls i).ctx.mediaKeyID ∧
      frame = ⟨w.kemCiphertext, w.wrapNonce, w.wrappedCEK⟩ ∧
      data = { w.record.metadata with mandatory := data.mandatory } := by
  obtain ⟨i, w, hw, rfl, hnonce, rfl, hct, rfl⟩ := hideal.wrap hcalls hcek hdata.aad
  obtain ⟨n, d, hwrap⟩ := wrapSpec_of_mem (hcalls i) hw
  -- the associated data fixes the recipient, the media key and the header's digest
  have hbinding := cekWrapAAD_injective hdata.aad hwrap.aad
  simp only [wrapBinding, WrapBinding.mk.injEq] at hbinding
  obtain ⟨henv, hkey, hversion, hrole, hmedia, hdigest⟩ := hbinding
  have hheader : headerBytes = (traces i).headerBytes :=
    hideal.digest i _ .header _ hdigest
  -- the derived key fixes the salt and, through its context, the KEM ciphertext
  obtain ⟨-, hsalt, hinfoeq⟩ := hideal.kdf i w hw ss s info (P.deriveKEK_eq_ok.mp hkek).2.2.symm
  rw [hinfoeq] at hinfo
  obtain ⟨-, -, hkem, -⟩ := hkdfInfo_injective hinfo hwrap.info
  have hkem : frame.kemCiphertext = w.kemCiphertext := hideal.digest i _ (.kem hw) _ hkem
  refine ⟨i, w, hw, hheader, rfl, hmedia, ?_, ?_⟩
  · cases frame
    simp only [WrappedKeyFrame.mk.injEq]
    exact ⟨hkem, hnonce, hct⟩
  · rw [hwrap.metadata]
    cases data
    simp only [PublicWrappingMetadata.mk.injEq]
    refine ⟨hdata.profile, hdata.scheme, hdata.suite, trivial, hkey, hversion, hrole, ?_, ?_, ?_,
      ?_, ?_, hdata.infoID, hdata.aadDigest⟩
    · exact hdata.mediaKey.trans hmedia
    · exact hdata.envelope.trans henv
    · exact hdata.headerDigest.1.trans (by rw [hheader])
    · exact hdata.kemDigest.trans (by rw [hkem])
    · exact hdata.salt.1.trans (by rw [hsalt])

/-- A header that matches a context is the header of that context. -/
theorem context_of_header {ctx ctx' : PayloadContext} {nonce : Bytes}
    (hmatch : (contextHeader ctx' nonce).matchesContext ctx = .ok ())
    (hmedia : ctx.mediaKeyID = ctx'.mediaKeyID) : ctx = ctx' := by
  obtain ⟨he, hi, hs, hm, hc, ht⟩ := ensure_ok.mp hmatch
  cases ctx
  cases ctx'
  simp only [contextHeader] at he hi hs hm hc ht hmedia
  subst he hi hs hm hc ht hmedia
  rfl

end Primitives

/-- **A decryption proves where an envelope comes from.**  Under ideal primitives for a family
    of honest calls, if any envelope decrypts for a recipient under a context, then its payload
    frame is the frame of one of the calls, the record that was used carries a wrapped key of the
    same call with that record's metadata (up to the order of its mandatory fields), the context
    is that call's context and the result is its plaintext. -/
theorem decrypt_binding (P : Primitives) {ι : Type} (calls : ι → Call P) (traces : ι → Trace)
    (hcalls : ∀ i, P.encryptTrace (calls i) = .ok (traces i)) (hideal : P.Ideal calls traces)
    (env : Envelope) (ctx : PayloadContext) (id : Bytes) (dk : Option P.DecapsulationKey)
    (plaintext : Bytes) (hdec : P.decrypt env ctx id dk = .ok plaintext) :
    ∃ i, env.payloadFrame = (traces i).envelope.payloadFrame ∧
      (∃ used, env.recipients.find? (fun r => r.metadata.recipientKeyID = id) = some used ∧
        ∃ honest ∈ (traces i).envelope.recipients,
          used.wrappedKeyFrame = honest.wrappedKeyFrame ∧
          used.metadata = { honest.metadata with mandatory := used.metadata.mandatory }) ∧
      ctx = (calls i).ctx ∧ plaintext = (calls i).plaintext := by
  simp only [Primitives.decrypt, bind_ok, found_ok, ensure_ok, Prod.exists] at hdec
  obtain ⟨dk, -, -, -, -, -, header, headerBytes, ciphertext, hparse, u, hmatch, used, hfind, frame,
    hframe, s, a, hdata, ss, -, info, hinfo, kek, hkek, cek, hcek, -, -, hplain⟩ := hdec
  have hdata := P.validatePublicMetadata_eq_ok.mp hdata
  have hused : used.metadata.recipientKeyID = id := by simpa using List.find?_some hfind
  rw [← hused] at hinfo
  obtain ⟨i, w, hw, rfl, rfl, hmedia, rfl, hmetadata⟩ :=
    hideal.unwrapped hcalls hdata hinfo hkek hcek
  have hspec := P.encryptTrace_eq_ok (hcalls i)
  obtain ⟨n, d, hwrap⟩ := Primitives.wrapSpec_of_mem (hcalls i) hw
  -- the frame has the header of the call, so it is read as the call's header
  obtain ⟨hencode, hheader⟩ := parsePayloadFrame_iff.mp hparse
  have hcall := (parsePayloadFrame_iff.mp (hspec.parse P)).2
  rw [hcall] at hheader
  obtain ⟨⟩ := hheader
  -- the payload opens under the call's content key and nonce, so it is the call's
  obtain ⟨j, hcek, hnonce, rfl, rfl, -⟩ := hideal.payload hcalls hplain hspec.header
  obtain rfl := hideal.fresh i j hcek hnonce
  have hpayload : env.payloadFrame = (traces i).payloadFrame := by
    rw [hspec.frame] at hencode
    exact (Except.ok.inj hencode).symm
  have hwire : used.wrappedKeyFrame = w.record.wrappedKeyFrame := by
    rw [(parseWrappedKeyFrame_eq_ok.mp hframe).2, (parseWrappedKeyFrame_eq_ok.mp hwrap.frame).2]
  exact ⟨i, hpayload, ⟨used, hfind, w.record, List.mem_map_of_mem hw, hwire, hmetadata⟩,
    Primitives.context_of_header hmatch hmedia, rfl⟩

/-! ### An instance -/

namespace OneCall

/-! Primitives that are ideal for one call: tables with an entry for what the call uses. -/

def plaintext : Bytes := bytes "evidence"
def cek : Bytes := List.replicate cekSize 1
def payloadNonce : Bytes := List.replicate nonceSize 2
def kek : Bytes := List.replicate cekSize 3
def salt : Bytes := List.replicate hkdfSaltSize 4
def wrapNonce : Bytes := List.replicate nonceSize 5
def sharedSecret : Bytes := List.replicate sharedKeySize 6
def kemCiphertext : Bytes := List.replicate ciphertextSize768 7
def tag : Bytes := List.replicate 16 8
def headerDigest : Bytes := List.replicate digestSize 9
def kemDigest : Bytes := List.replicate digestSize 10
def otherDigest : Bytes := List.replicate digestSize 11
def keyID : Bytes := keyIDOf otherDigest

def recipient : Recipient := ⟨keyID, 1, bytes "owner", List.replicate encapsulationKeySize768 0⟩

def headerBytes : Bytes :=
  (encodePayloadHeader (contextHeader sampleContext payloadNonce)).toOption.getD []

def info : Bytes :=
  (hkdfInfo sampleContext.envelopeID keyID kemDigest headerDigest).toOption.getD []

def wrapAAD : Bytes :=
  (cekWrapAAD sampleContext sampleContext.envelopeID recipient headerDigest).toOption.getD []

def primitives : Primitives where
  EncapsulationKey := Unit
  DecapsulationKey := Unit
  Seed := Unit
  sha384 := fun b =>
    if b = headerBytes then ⟨headerDigest, rfl⟩
    else if b = kemCiphertext then ⟨kemDigest, rfl⟩
    else ⟨otherDigest, rfl⟩
  newEncapsulationKey768 := fun _ => some ()
  publicKey := fun _ => recipient.encapsulationKey
  encapsulate := fun _ _ => (sharedSecret, kemCiphertext)
  decapsulate := fun _ _ => some sharedSecret
  hkdfExtract := fun ss s => if ss = sharedSecret ∧ s = salt then [1] else [0]
  hkdfExpand := fun prk i =>
    if prk = [1] ∧ i = info then ⟨kek, rfl⟩ else ⟨List.replicate cekSize 0, rfl⟩
  gcmSeal := fun _ _ p _ => p ++ tag
  gcmOpen := fun k n c a =>
    if k = cek ∧ n = payloadNonce ∧ c = plaintext ++ tag ∧ a = headerBytes then some plaintext
    else if k = kek ∧ n = wrapNonce ∧ c = cek ++ tag ∧ a = wrapAAD then some cek
    else none

def call : Call primitives where
  plaintext := plaintext
  ctx := sampleContext
  recipients := [recipient]
  draws :=
    { cek := ⟨cek, rfl⟩
      payloadNonce := ⟨payloadNonce, rfl⟩
      wraps := fun _ => { seed := (), salt := ⟨salt, rfl⟩, wrapNonce := ⟨wrapNonce, rfl⟩ } }

def trace : Trace := (primitives.encryptTrace call).toOption.getD ⟨[], [], [], []⟩

set_option maxRecDepth 20000 in
theorem encryptTrace_call : primitives.encryptTrace call = .ok trace := rfl

set_option maxRecDepth 20000 in
/-- The call wraps its key once. -/
theorem wraps_trace : ∃ w, trace.wraps = [w] ∧ w.kek = kek ∧ w.sharedSecret = sharedSecret ∧
    w.salt = salt ∧ w.info = info ∧ w.kemCiphertext = kemCiphertext ∧ w.wrapNonce = wrapNonce ∧
    w.wrappedCEK = cek ++ tag ∧ w.wrapAAD = wrapAAD :=
  ⟨_, rfl, rfl, rfl, rfl, rfl, rfl, rfl, rfl, rfl⟩

set_option maxRecDepth 20000 in
theorem ideal : primitives.Ideal (fun _ : Unit => call) (fun _ => trace) where
  aead := by
    intro key nonce ciphertext aad p hopen
    obtain ⟨w, hwraps, hkek, -, -, -, -, hnonce, hcek, haad⟩ := wraps_trace
    have hopen : (if key = cek ∧ nonce = payloadNonce ∧ ciphertext = plaintext ++ tag ∧
        aad = headerBytes then some plaintext
      else if key = kek ∧ nonce = wrapNonce ∧ ciphertext = cek ++ tag ∧ aad = wrapAAD then some cek
      else none) = some p := hopen
    refine ⟨(), ?_⟩
    split at hopen
    · rename_i h
      obtain ⟨rfl, rfl, rfl, rfl⟩ := h
      obtain ⟨⟩ := hopen
      exact Sealed.payload (c := call) (t := trace)
    · split at hopen
      · rename_i h
        obtain ⟨rfl, rfl, rfl, rfl⟩ := h
        obtain ⟨⟩ := hopen
        have hsealed := Sealed.wrap (c := call) (t := trace) (w := w) (by simp [hwraps])
        rw [hkek, hnonce, hcek, haad] at hsealed
        exact hsealed
      · cases hopen
  kdf := by
    intro _ v hv ss s i hderived
    obtain ⟨w, hwraps, hkek, hss, hsalt, hinfo, -⟩ := wraps_trace
    obtain rfl : v = w := by simpa [hwraps] using hv
    rw [hkek] at hderived
    have hzero : List.replicate cekSize (0 : UInt8) ≠ kek := by decide
    by_cases hpair : ss = sharedSecret ∧ s = salt
    · by_cases hi : i = info
      · exact ⟨hpair.1.trans hss.symm, hpair.2.trans hsalt.symm, hi.trans hinfo.symm⟩
      · simp only [primitives, hpair, hi, and_self, if_true, if_false, and_false] at hderived
        exact absurd hderived hzero
    · have hne : ([0] : Bytes) ≠ [1] := by decide
      simp only [primitives, hpair, hne, if_false, false_and] at hderived
      exact absurd hderived hzero
  digest := by
    intro _ b hb b' heq
    obtain ⟨w, hwraps, -, -, -, -, hkem, -⟩ := wraps_trace
    have hfixed : b = headerBytes ∨ b = kemCiphertext := by
      cases hb with
      | header => exact .inl rfl
      | kem hv =>
        rename_i v
        obtain rfl : v = w := by simpa [hwraps] using hv
        exact .inr hkem
    have hvalue : ∀ x, (primitives.sha384 x : Bytes) =
        if x = headerBytes then headerDigest
        else if x = kemCiphertext then kemDigest else otherDigest := by
      intro x
      show ((if x = headerBytes then ⟨headerDigest, rfl⟩
        else if x = kemCiphertext then ⟨kemDigest, rfl⟩
        else ⟨otherDigest, rfl⟩ : Sized digestSize) : Bytes) = _
      split
      · rfl
      · split <;> rfl
    have hdiffer : headerDigest ≠ kemDigest ∧ headerDigest ≠ otherDigest ∧
        kemDigest ≠ otherDigest ∧ kemCiphertext ≠ headerBytes := by decide
    rw [hvalue, hvalue] at heq
    obtain ⟨h1, h2, h3, h4⟩ := hdiffer
    rcases hfixed with rfl | rfl
    · rw [if_pos rfl] at heq
      split at heq
      · assumption
      · split at heq
        · exact absurd heq.symm h1
        · exact absurd heq.symm h2
    · rw [if_neg h4, if_pos rfl] at heq
      split at heq
      · exact absurd heq h1
      · split at heq
        · assumption
        · exact absurd heq.symm h3
  fresh := fun _ _ _ _ => rfl

end OneCall

set_option maxRecDepth 20000 in
/-- The envelope of that call decrypts under its context, and so it is the call's. -/
theorem decrypt_binding_oneCall :
    ∃ p, OneCall.primitives.decrypt OneCall.trace.envelope sampleContext OneCall.keyID (some ())
        = .ok p ∧ p = OneCall.plaintext := by
  obtain ⟨p, hdec⟩ : ∃ p, OneCall.primitives.decrypt OneCall.trace.envelope sampleContext
      OneCall.keyID (some ()) = .ok p := ⟨_, rfl⟩
  obtain ⟨_, -, -, -, hp⟩ := decrypt_binding OneCall.primitives (fun _ : Unit => OneCall.call)
    (fun _ => OneCall.trace) (fun _ => OneCall.encryptTrace_call) OneCall.ideal _ _ _ _ p hdec
  exact ⟨p, hdec, hp⟩

end SafetyRecorder.Envelope
