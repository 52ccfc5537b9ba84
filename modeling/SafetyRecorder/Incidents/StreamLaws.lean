import SafetyRecorder.Incidents.History

namespace SafetyRecorder

open Runs Table

/-!
# Incidents — the laws of media streams

What a client may rely on once a stream is complete, stated for any transition
system over the metadata database.

* `StreamEffect` — what a committed transaction can do to streams and chunks;
  `stream_origin` — where the streams after it come from;
* `StreamLaws` — a complete stream has exactly the chunks `1 … n`, keeps them until
  its incident is pruned, and a status changes at most once;
* `streamLaws_of_effects` — a system whose every step has a stream effect, and that
  never reuses a stream identifier, obeys the laws;
* `streamEffect_of_run` — the transactions of the SQLite repository have stream
  effects.
-/

/-- What a committed transaction can do to streams and chunks.  `used` and `used'`
    are the identifiers in use before and after it, `pruned` the incidents whose
    deletion it completes. -/
inductive StreamEffect (used used' pruned : String → Prop) (db db' : DB) : Prop
  | keep (streams : db'.streams = db.streams) (chunks : db'.chunks = db.chunks)
  | create (st : MediaStream) (isOpen : st.status = .open) (named : st.id ≠ "")
      (fresh : ¬ used st.id) (given : used' st.id)
      (streams : db'.streams = db.streams ++ [st]) (chunks : db'.chunks = db.chunks)
  | chunk (c : Chunk)
      (intoOpen : c.streamID ≠ "" → ∃ st ∈ db.streams, st.id = c.streamID ∧ st.status = .open)
      (streams : db'.streams = db.streams) (chunks : db'.chunks = db.chunks ++ [c])
  /-- An open stream is completed or failed; the other streams stay as they are. -/
  | finish (st st' : MediaStream) (mem : st ∈ db.streams) (isOpen : st.status = .open)
      (id : st'.id = st.id) (incident : st'.incidentID = st.incidentID)
      (mediaType : st'.mediaType = st.mediaType)
      (status : st'.status = .failed ∨ st'.status = .complete ∧ ∃ n,
        st'.expectedChunkCount = some n ∧ Contiguous db st.incidentID st.id st.mediaType n)
      (g : MediaStream → MediaStream) (hg : ∀ r, r.id ≠ st.id → g r = r) (hst : g st = st')
      (streams : db'.streams = db.streams.map g) (chunks : db'.chunks = db.chunks)
  | prune (i : String) (hi : pruned i)
      (streams : db'.streams = deleteWhere (·.incidentID == i) db.streams)
      (chunks : db'.chunks = deleteWhere (·.incidentID == i) db.chunks)

/-- The streams of a database: named, with unique identifiers, and those that are
    complete have the chunks their client promised. -/
structure StreamsWF (db : DB) : Prop where
  ids : (db.streams.map (·.id)).Nodup
  named : ∀ st ∈ db.streams, st.id ≠ ""
  complete : ∀ st ∈ db.streams, st.status = .complete →
    ∃ n, st.expectedChunkCount = some n ∧ Contiguous db st.incidentID st.id st.mediaType n

/-- Contiguity looks at the chunks of the stream only. -/
theorem Contiguous.congr {db db' : DB} {i s : String} {m : MediaType} {n : Int}
    (h : Contiguous db i s m n) (hchunks : db'.streamChunks i s = db.streamChunks i s) :
    Contiguous db' i s m n := by
  unfold Contiguous
  rw [hchunks]
  exact h

variable {used used' pruned : String → Prop} {db db' : DB}

/-- More incidents may count as pruned. -/
theorem StreamEffect.mono {pruned' : String → Prop} (he : StreamEffect used used' pruned db db')
    (h : ∀ i, pruned i → pruned' i) : StreamEffect used used' pruned' db db' := by
  cases he with
  | keep streams chunks => exact .keep streams chunks
  | create st isOpen named fresh given streams chunks =>
    exact .create st isOpen named fresh given streams chunks
  | chunk c intoOpen streams chunks => exact .chunk c intoOpen streams chunks
  | finish st st' mem isOpen id incident mediaType status g hg hst streams chunks =>
    exact .finish st st' mem isOpen id incident mediaType status g hg hst streams chunks
  | prune i hi streams chunks => exact .prune i (h i hi) streams chunks

variable {st : MediaStream}

/-- A new chunk belongs to no complete stream. -/
theorem streamChunks_append (hwf : StreamsWF db) {c : Chunk}
    (hopen : c.streamID ≠ "" → ∃ st ∈ db.streams, st.id = c.streamID ∧ st.status = .open)
    (hchunks : db'.chunks = db.chunks ++ [c]) (hst : st ∈ db.streams) (hne : st.status ≠ .open) :
    db'.streamChunks st.incidentID st.id = db.streamChunks st.incidentID st.id := by
  have hother : c.streamID ≠ st.id := by
    intro heq
    have hnamed : c.streamID ≠ "" := by rw [heq]; exact hwf.named st hst
    obtain ⟨st₀, hst₀, hid, hstOpen⟩ := hopen hnamed
    obtain rfl := eq_of_key hwf.ids hst₀ hst (hid.trans heq)
    exact hne hstOpen
  rw [DB.streamChunks, hchunks, List.filter_append]
  simp [DB.streamChunks, hother]

/-- The chunks of another incident survive a pruning. -/
theorem streamChunks_prune {i : String} (hchunks : db'.chunks = deleteWhere (·.incidentID == i) db.chunks)
    {j s : String} (hj : j ≠ i) : db'.streamChunks j s = db.streamChunks j s := by
  rw [DB.streamChunks, hchunks, deleteWhere, List.filter_filter, DB.streamChunks]
  apply List.filter_congr
  intro c _
  by_cases hc : c.incidentID = j
  · simp [hc, hj]
  · simp [hc]

/-- The same chunks in the table are the same chunks of every stream. -/
theorem streamChunks_of_eq (h : db'.chunks = db.chunks) (i s : String) :
    db'.streamChunks i s = db.streamChunks i s := by
  rw [DB.streamChunks, h, DB.streamChunks]

/-- **A complete stream keeps its row and its chunks** unless its incident is
    pruned. -/
theorem kept_of_effect (hwf : StreamsWF db) (he : StreamEffect used used' pruned db db')
    (hst : st ∈ db.streams) (hne : st.status ≠ .open) :
    (st ∈ db'.streams ∧ db'.streamChunks st.incidentID st.id = db.streamChunks st.incidentID st.id) ∨
      pruned st.incidentID := by
  cases he with
  | keep streams chunks => exact .inl ⟨streams ▸ hst, streamChunks_of_eq chunks _ _⟩
  | create new isOpen named fresh given streams chunks =>
    exact .inl ⟨streams ▸ List.mem_append_left _ hst, streamChunks_of_eq chunks _ _⟩
  | chunk c intoOpen streams chunks =>
    exact .inl ⟨streams ▸ hst, streamChunks_append hwf intoOpen chunks hst hne⟩
  | finish st₀ st₁ mem isOpen id incident mediaType status g hg hst₁ streams chunks =>
    have hother : st.id ≠ st₀.id := by
      intro heq
      obtain rfl := eq_of_key hwf.ids hst mem heq
      exact hne isOpen
    refine .inl ⟨?_, streamChunks_of_eq chunks _ _⟩
    rw [streams, ← hg st hother]
    exact List.mem_map_of_mem hst
  | prune i hi streams chunks =>
    by_cases heq : st.incidentID = i
    · exact .inr (heq ▸ hi)
    · refine .inl ⟨?_, streamChunks_prune chunks heq⟩
      rw [streams]
      exact mem_deleteWhere.mpr ⟨hst, by simpa using heq⟩

/-- Where the streams after a step come from. -/
inductive StreamOrigin (used used' : String → Prop) (db db' : DB) (st' : MediaStream) : Prop
  | kept (mem : st' ∈ db.streams) (chunks : st'.status ≠ .open →
      db'.streamChunks st'.incidentID st'.id = db.streamChunks st'.incidentID st'.id)
  | new (isOpen : st'.status = .open) (named : st'.id ≠ "") (fresh : ¬ used st'.id)
      (given : used' st'.id)
  | finished (st : MediaStream) (mem : st ∈ db.streams) (id : st.id = st'.id)
      (isOpen : st.status = .open)
      (status : st'.status = .failed ∨ st'.status = .complete ∧ ∃ n,
        st'.expectedChunkCount = some n ∧ Contiguous db' st'.incidentID st'.id st'.mediaType n)

theorem stream_origin (hwf : StreamsWF db) (he : StreamEffect used used' pruned db db')
    {st' : MediaStream} (hst' : st' ∈ db'.streams) : StreamOrigin used used' db db' st' := by
  cases he with
  | keep streams chunks => exact .kept (streams ▸ hst') fun _ => streamChunks_of_eq chunks _ _
  | create new isOpen named fresh given streams chunks =>
    rw [streams] at hst'
    rcases mem_append_row.mp hst' with hold | rfl
    · exact .kept hold fun _ => streamChunks_of_eq chunks _ _
    · exact .new isOpen named fresh given
  | chunk c intoOpen streams chunks =>
    rw [streams] at hst'
    exact .kept hst' (streamChunks_append hwf intoOpen chunks hst')
  | finish st₀ st₁ mem isOpen id incident mediaType status g hg hst₁ streams chunks =>
    rw [streams] at hst'
    obtain ⟨r, hr, rfl⟩ := List.mem_map.mp hst'
    by_cases hid : r.id = st₀.id
    · -- completing a stream has checked its chunks
      obtain rfl := eq_of_key hwf.ids hr mem hid
      rw [hst₁]
      refine .finished r hr id.symm isOpen (status.imp_right ?_)
      rintro ⟨hcomplete, n, hn, hcont⟩
      rw [id, incident, mediaType]
      exact ⟨hcomplete, n, hn, hcont.congr (streamChunks_of_eq chunks _ _)⟩
    · rw [hg r hid]
      exact .kept hr fun _ => streamChunks_of_eq chunks _ _
  | prune i hi streams chunks =>
    rw [streams] at hst'
    obtain ⟨hmem, hkeep⟩ := mem_deleteWhere.mp hst'
    exact .kept hmem fun _ => streamChunks_prune chunks (by simpa using hkeep)

/-- After a step, too, the identifiers of all streams are in use. -/
theorem used_of_effect (hwf : StreamsWF db) (hused : ∀ st ∈ db.streams, used st.id)
    (hmono : ∀ i, used i → used' i) (he : StreamEffect used used' pruned db db') :
    ∀ st' ∈ db'.streams, used' st'.id := by
  intro st' hst'
  cases stream_origin hwf he hst' with
  | kept mem => exact hmono _ (hused st' mem)
  | new isOpen named fresh given => exact given
  | finished st mem id => exact hmono _ (id ▸ hused st mem)

/-- A stream effect keeps the identifiers unique. -/
theorem ids_of_effect (hwf : StreamsWF db) (hused : ∀ st ∈ db.streams, used st.id)
    (he : StreamEffect used used' pruned db db') : (db'.streams.map (·.id)).Nodup := by
  cases he with
  | keep streams => exact streams ▸ hwf.ids
  | create new isOpen named fresh given streams =>
    rw [streams]
    exact nodup_map_append hwf.ids fun r hr heq => fresh (heq ▸ hused r hr)
  | chunk c intoOpen streams => exact streams ▸ hwf.ids
  | finish st₀ st₁ mem isOpen id incident mediaType status g hg hst₁ streams =>
    have hgid : ∀ r ∈ db.streams, (g r).id = r.id := by
      intro r hr
      by_cases hid : r.id = st₀.id
      · obtain rfl := eq_of_key hwf.ids hr mem hid
        rw [hst₁, id]
      · rw [hg r hid]
    rw [streams, List.map_map, List.map_congr_left (g := (·.id)) hgid]
    exact hwf.ids
  | prune i hi streams =>
    rw [streams]
    exact nodup_map_deleteWhere hwf.ids

/-- A stream effect keeps the streams well formed. -/
theorem streamsWF_effect (hwf : StreamsWF db) (hused : ∀ st ∈ db.streams, used st.id)
    (he : StreamEffect used used' pruned db db') : StreamsWF db' := by
  refine ⟨ids_of_effect hwf hused he, fun st hst => ?_, fun st hst hcomplete => ?_⟩
  · cases stream_origin hwf he hst with
    | kept mem => exact hwf.named st mem
    | new isOpen named => exact named
    | finished st₀ mem id => exact id ▸ hwf.named st₀ mem
  · cases stream_origin hwf he hst with
    | kept mem chunks =>
      obtain ⟨n, hn, hcont⟩ := hwf.complete st mem hcomplete
      exact ⟨n, hn, hcont.congr (chunks (by simp [hcomplete]))⟩
    | new isOpen => cases isOpen.symm.trans hcomplete
    | finished st₀ mem id isOpen status =>
      rcases status with hfailed | ⟨-, hdone⟩
      · cases hfailed.symm.trans hcomplete
      · exact hdone

/-! ### The laws -/

section Laws

variable {σ ℓ γ : Type} (step : σ → ℓ → Option σ) (start : σ) (dbOf : σ → DB)

/-- The laws of media streams, along every run of a transition system.  `pruned s l`
    says of which incidents the step `l` from `s` completes the deletion. -/
structure StreamLaws (pruned : σ → ℓ → String → Prop) : Prop where
  /-- A complete stream has exactly one chunk for each index up to the count its
      client gave, all of its media type. -/
  complete : ∀ ls s, run step start ls = some s → ∀ st ∈ (dbOf s).streams, st.status = .complete →
    ∃ n, st.expectedChunkCount = some n ∧ Contiguous (dbOf s) st.incidentID st.id st.mediaType n
  /-- The row and the chunks of a complete stream stay until its incident is pruned. -/
  kept : ∀ ls s l s', run step start ls = some s → step s l = some s' →
    ∀ st ∈ (dbOf s).streams, st.status = .complete →
      (st ∈ (dbOf s').streams ∧ (dbOf s').streamChunks st.incidentID st.id =
        (dbOf s).streamChunks st.incidentID st.id) ∨ pruned s l st.incidentID
  /-- A status changes from open to complete or from open to failed. -/
  status : ∀ ls s l s', run step start ls = some s → step s l = some s' →
    ∀ st ∈ (dbOf s).streams, ∀ st' ∈ (dbOf s').streams, st'.id = st.id →
      st'.status = st.status ∨
        (st.status = .open ∧ (st'.status = .complete ∨ st'.status = .failed))
  /-- A status that is not open is final. -/
  once : ∀ ls m ks s, run step start ls = some m → run step m ks = some s →
    ∀ st ∈ (dbOf m).streams, st.status ≠ .open → ∀ st' ∈ (dbOf s).streams, st'.id = st.id →
      st'.status = st.status

/-- **The laws from single steps.** A system obeys the laws when each of its steps,
    from a state that satisfies the invariant `I` with some ghost state, has a stream
    effect, and the identifiers in use (`U`) are never given away again. -/
theorem streamLaws_of_effects {pruned : σ → ℓ → String → Prop} {I : σ → γ → Prop}
    {U : σ → γ → String → Prop} (hempty : (dbOf start).streams = []) (hstart : ∃ g, I start g)
    (hstep : ∀ s l s' g, I s g → StreamsWF (dbOf s) → step s l = some s' → ∃ g', I s' g' ∧
      StreamEffect (U s g) (U s' g') (pruned s l) (dbOf s) (dbOf s') ∧ ∀ i, U s g i → U s' g' i) :
    StreamLaws step start dbOf pruned := by
  -- the invariant of a run: streams are well formed and their identifiers in use
  let Good (s : σ) (g : γ) : Prop :=
    I s g ∧ StreamsWF (dbOf s) ∧ ∀ st ∈ (dbOf s).streams, U s g st.id
  have hgood : ∀ s l s' g, Good s g → step s l = some s' → ∃ g', Good s' g' ∧
      StreamEffect (U s g) (U s' g') (pruned s l) (dbOf s) (dbOf s') ∧
        ∀ i, U s g i → U s' g' i := by
    rintro s l s' g ⟨hI, hwf, hused⟩ hs
    obtain ⟨g', hI', heff, hmono⟩ := hstep s l s' g hI hwf hs
    exact ⟨g', ⟨hI', streamsWF_effect hwf hused heff, used_of_effect hwf hused hmono heff⟩, heff,
      hmono⟩
  have hrun : ∀ ls s, run step start ls = some s → ∃ g, Good s g := by
    intro ls s h
    refine invariant_of_step (I := fun s => ∃ g, Good s g) ?_ ?_ h
    · rintro s l s' ⟨g, hg⟩ hs
      obtain ⟨g', hg', -⟩ := hgood s l s' g hg hs
      exact ⟨g', hg'⟩
    · obtain ⟨g, hI⟩ := hstart
      exact ⟨g, hI, by constructor <;> simp [hempty], by simp [hempty]⟩
  constructor
  case complete =>
    intro ls s h st hst hcomplete
    obtain ⟨g, -, hwf, -⟩ := hrun ls s h
    exact hwf.complete st hst hcomplete
  case kept =>
    intro ls s l s' h hs st hst hcomplete
    obtain ⟨g, hg⟩ := hrun ls s h
    obtain ⟨g', -, heff, -⟩ := hgood s l s' g hg hs
    exact kept_of_effect hg.2.1 heff hst (by simp [hcomplete])
  case status =>
    intro ls s l s' h hs st hst st' hst' hid
    obtain ⟨g, hg⟩ := hrun ls s h
    obtain ⟨g', -, heff, -⟩ := hgood s l s' g hg hs
    obtain ⟨-, hwf, hused⟩ := hg
    cases stream_origin hwf heff hst' with
    | kept mem => exact .inl (by rw [eq_of_key hwf.ids mem hst hid])
    | new isOpen named fresh => exact absurd (hid ▸ hused st hst) fresh
    | finished st₀ mem hid₀ isOpen status =>
      obtain rfl := eq_of_key hwf.ids mem hst (hid₀.trans hid)
      exact .inr ⟨isOpen, status.symm.imp_left And.left⟩
  case once =>
    intro ls m ks s hm hks st hst hne
    obtain ⟨g, hg⟩ := hrun ls m hm
    -- the identifier stays in use, so no other stream ever gets it
    suffices hfinal : ∃ g, Good s g ∧ U s g st.id ∧
        ∀ st' ∈ (dbOf s).streams, st'.id = st.id → st'.status = st.status by
      obtain ⟨-, -, -, hstatus⟩ := hfinal
      exact hstatus
    refine invariant_of_step (I := fun s => ∃ g, Good s g ∧ U s g st.id ∧
      ∀ st' ∈ (dbOf s).streams, st'.id = st.id → st'.status = st.status) ?_ ?_ hks
    · rintro s l s' ⟨g, hg, huse, hstatus⟩ hs
      obtain ⟨g', hg', heff, hmono⟩ := hgood s l s' g hg hs
      refine ⟨g', hg', hmono _ huse, fun st' hst' hid => ?_⟩
      cases stream_origin hg.2.1 heff hst' with
      | kept mem => exact hstatus st' mem hid
      | new isOpen named fresh => exact absurd (hid ▸ huse) fresh
      | finished st₀ mem hid₀ isOpen =>
        exact absurd ((hstatus st₀ mem (hid₀.trans hid)).symm.trans isOpen) hne
    · refine ⟨g, hg, hg.2.2 st hst, fun st' hst' hid => ?_⟩
      rw [eq_of_key hg.2.1.ids hst' hst hid]

end Laws

/-! ### The SQLite repository -/

/-- A step completes the deletion of an incident. -/
def CompletesDeletion (s : Repository) (l : Tx × Time) (i : String) : Prop :=
  ∃ dec ∈ s.db.decisions, dec.incidentID = i ∧ l.1 = .completeIncidentDeletion dec.id

variable {env : Env} {d : Draw}

/-- Deleting bare incidents takes no stream and no chunk with it. -/
theorem deleteIncidents_streams {ids : List String}
    (hbare : ∀ i ∈ ids, db.bare i = true) :
    (db.deleteIncidents ids).streams = db.streams ∧ (db.deleteIncidents ids).chunks = db.chunks := by
  simp only [DB.deleteIncidents, deleteWhere, List.filter_eq_self]
  constructor
  · intro st hst
    have hnot : st.incidentID ∉ ids := fun hin => (DB.bare_rows (hbare _ hin)).2.1 st hst rfl
    simpa using hnot
  · intro c hc
    have hnot : c.incidentID ∉ ids := fun hin => (DB.bare_rows (hbare _ hin)).1 c hc rfl
    simpa using hnot

/-- The guarded update of an open stream, as a stream effect. -/
private theorem finish_effect {i s : String} {f : MediaStream → MediaStream}
    (hst : st ∈ db.streams) (hinc : st.incidentID = i) (hid : st.id = s) (hopen : st.status = .open)
    (hfid : (f st).id = st.id) (hfinc : (f st).incidentID = st.incidentID)
    (hftype : (f st).mediaType = st.mediaType)
    (hstatus : (f st).status = .failed ∨ (f st).status = .complete ∧ ∃ n,
      (f st).expectedChunkCount = some n ∧ Contiguous db st.incidentID st.id st.mediaType n) :
    StreamEffect used used' pruned db { db with streams := updateWhere (openStream i s) f db.streams } := by
  refine .finish st (f st) hst hopen hfid hfinc hftype hstatus
    (fun r => if openStream i s r then f r else r) ?_ ?_ rfl rfl
  · intro r hr
    have hno : openStream i s r = false := by simp [openStream, hid ▸ hr]
    simp [hno]
  · have hyes : openStream i s st = true := by simp [openStream, hinc, hid, hopen]
    simp [hyes]

private theorem streamEffect_of_other {t : Tx} {r : t.Result} (h : t.run env d db = .ok (r, db'))
    (ht : t.writesStreams = false) :
    StreamEffect used used'
      (fun i => ∃ dec ∈ db.decisions, dec.incidentID = i ∧ t = .completeIncidentDeletion dec.id)
      db db' := by
  cases effect_of_run h with
  | quiet g hg incidents chunks decisions items events rows streams =>
    exact .keep (streams.resolve_left (by simp [ht])) chunks
  | chunk p active fresh index =>
    obtain ⟨-, -, -, hstream, -⟩ := createChunk_ok h
    refine .chunk _ (fun hne => ?_) rfl rfl
    obtain ⟨st, hst, -, hid, hopen, -⟩ := hstream hne
    exact ⟨st, hst, hid, hopen⟩
  | complete dec mem => exact .prune dec.incidentID ⟨dec, mem, rfl, rfl⟩ rfl rfl
  | tombstones cutoff limit =>
    obtain ⟨hstreams, hchunks⟩ := deleteIncidents_streams
      fun i hi => (mem_pruneTombstoneIncidentIDs hi).1
    exact .keep hstreams hchunks
  | _ => exact .keep rfl rfl

/-- **Every transaction has a stream effect.** -/
theorem streamEffect_of_run {t : Tx} {r : t.Result} (h : t.run env d db = .ok (r, db'))
    (hids : (db.streams.map (·.id)).Nodup) :
    StreamEffect (Issued env d.next) (Issued env (d.next + t.draws db))
      (fun i => ∃ dec ∈ db.decisions, dec.incidentID = i ∧ t = .completeIncidentDeletion dec.id)
      db db' := by
  cases t with
  | createMediaStream i m label =>
    obtain ⟨-, rfl, rfl⟩ := createMediaStream_ok h
    exact .create _ rfl env.newID_ne_empty
      (fun hissued => hissued.ne_newID (le_refl _) rfl)
      ⟨"str", d.next, Nat.lt_add_of_pos_right Nat.zero_lt_two, rfl⟩ rfl rfl
  | completeMediaStream i s n =>
    obtain ⟨-, -, rfl, hmem, -, hid, hcont⟩ := completeMediaStream_ok h
    obtain ⟨st, hst, hstInc, hstID, hopen⟩ := completeMediaStream_open h
    refine finish_effect hst hstInc hstID hopen rfl rfl rfl (.inr ⟨rfl, n, rfl, ?_⟩)
    -- the stream read back after the update is the one that was open
    have htype : r.mediaType = st.mediaType := by
      obtain ⟨r₀, hr₀, rfl⟩ := mem_updateWhere.mp hmem
      have hsame : r₀.id = st.id := by
        rw [hstID, ← hid]
        split <;> rfl
      obtain rfl := eq_of_key hids hr₀ hst hsame
      split <;> rfl
    rw [hstInc, hstID, ← htype]
    exact hcont
  | failMediaStream i s reason =>
    obtain ⟨-, rfl⟩ := failMediaStream_ok h
    obtain ⟨st, hst, hstInc, hstID, hopen⟩ := failMediaStream_open h
    exact finish_effect hst hstInc hstID hopen rfl rfl rfl (.inl rfl)
  | _ => exact streamEffect_of_other h rfl

/-- **The SQLite repository obeys the laws of media streams.** -/
theorem streamLaws_repository (env : Env) :
    StreamLaws (repositoryStep env) {} (·.db) CompletesDeletion := by
  refine streamLaws_of_effects (γ := Unit) (I := fun _ _ => True)
    (U := fun s _ => Issued env s.nextID) _ _ _ rfl ⟨(), trivial⟩ ?_
  intro s l s' _ _ hwf hs
  obtain ⟨hdraws, hcase⟩ := repositoryStep_cases hs
  rw [hdraws]
  refine ⟨(), trivial, ?_, fun i hi => hi.mono (Nat.le_add_right _ _)⟩
  rcases hcase with ⟨r, hrun⟩ | hsame
  · exact streamEffect_of_run hrun hwf.ids
  · exact .keep (by rw [hsame]) (by rw [hsame])

end SafetyRecorder
