import Mathlib.Data.Option.Basic
import PlachemMonitor.Documents.Register
import PlachemMonitor.Spec.Machine
import PlachemMonitor.Spec.Past

/-!
# Versions of documents

Calls of `register_document` from several connections. A write is on the present tables; what was read
before the first one may be from earlier. Where a call raises, its caller rolls its transaction back, or
goes on with it.

* `Registers`: what a call can do.
* `Chained`: the versions of each document are `1..n`, and the current one is `n`. The index on the
  number of a version lets no call write that has read an older one.
* `versions_chained`: so it is in every run in which no call for a new file has missed another one, and
  no caller goes on after a task of another project.
* `registered_twice`: two calls for one file, and a call that raises and leaves a version.
-/

namespace Plachem

namespace Documents

/-- The tables, and the earlier states of them, the latest first. -/
structure Registry where
  now : DB
  past : List DB

namespace Registry

def view (r : Registry) (seen : Read → Nat) : Read → DB := fun x => Past.ago r.now r.past (seen x)

inductive Label where
  /-- A call. If it raises, its caller rolls back, or keeps what it has written. -/
  | register (c : Call) (out : Outside) (seen : Read → Nat) (keeps : Bool)
  /-- Others change projects, and insert tasks. -/
  | elsewhere (projects : Table Project Project.id) (tasks : Table Task Task.id)

/-- `uuid4` gives no id twice. -/
def fresh (db : DB) (out : Outside) : Bool :=
  (db.documents.find (out.uuid 0)).isNone && (db.versions.find (out.uuid 1)).isNone

/-- The tables after a call. -/
def left (keeps : Bool) (before : DB) : DB × Except Raised Result → DB
  | (db, .ok _) => db
  | (db, .error _) => if keeps then db else before

def step (r : Registry) : Label → Option Registry
  | .register c out seen keeps => do
    guard (fresh r.now out)
    pure ⟨left keeps r.now (register_document (r.view seen) r.now out c), r.now :: r.past⟩
  | .elsewhere projects tasks => do
    guard (∀ t ∈ r.now.tasks.rows, t ∈ tasks.rows)
    pure ⟨{ r.now with projects := projects, tasks := tasks }, r.now :: r.past⟩

/-- A call that finds no document of its file has not missed one that is there by now, and a caller that
keeps what a call has written before it raised names no task but of the project. -/
def careful (r : Registry) : Label → Bool
  | .register c out seen keeps =>
    ((given c.document_id).isSome || (prepared (r.view seen .project) out c).toOption.all fun f =>
      !(r.view seen .existing).registered c.project_id f.uri == [] ||
        r.now.registered c.project_id f.uri == []) &&
    (!keeps || c.source_task_id.all (r.now.has_task c.project_id))
  | .elsewhere _ _ => true

end Registry

/-- The registry, at first without documents. -/
def registry : Machine Registry Registry.Label where
  init r := r.now.documents.rows = [] ∧ r.now.versions.rows = [] ∧ r.past = []
  step := Registry.step

variable {view : Read → DB} {db db' : DB} {out : Outside} {c : Call} {f : Prepared} {d : Document}
  {v : Version} {n : Nat}

@[simp] theorem new_version_document_id (out : Outside) (c : Call) (f : Prepared) (id : String) (n : Nat) :
    (new_version out c f id n).document_id = id := rfl

@[simp] theorem result_of_document_id (f : Prepared) (id : String) (v : Version) (changed : Bool) :
    (result_of f id v changed).document_id = id := rfl

/-! ## What a call does -/

/-- What a call can do. -/
inductive Registers (view : Read → DB) (db : DB) (out : Outside) (c : Call) : DB × Except Raised Result → Prop
  | refused (e : Raised) : Registers view db out c (db, .error e)
  | same {f : Prepared} {id : String} {v : Version} (links : Table Link Link.key) :
    (view .current).current_version id = some v → v.sha256 = f.sha256 → v.uri = f.uri →
    Registers view db out c ({ db with links := links }, .ok (result_of f id v false))
  | updated {f : Prepared} {id : String} {db₁ : DB} {outcome : Except Raised Result} (links : Table Link Link.key) :
    (∀ e ∈ c.expected_version, e = (view .current).current_number id) →
    (∀ v, (view .current).current_version id = some v → ¬(v.sha256 = f.sha256 ∧ v.uri = f.uri)) →
    db.insert_version (new_version out c f id ((view .current).current_number id + 1)) = some db₁ →
    (∀ result, outcome = .ok result →
      result = result_of f id (new_version out c f id ((view .current).current_number id + 1)) true) →
    (∀ e, outcome = .error e → c.source_task_id.all (db.has_task c.project_id) = false) →
    Registers view db out c
      ({ db₁.set_current out f (new_version out c f id ((view .current).current_number id + 1)) with
        links := links }, outcome)
  | halved {f : Prepared} {documents : Table Document Document.id} :
    db.documents.insert (new_document out c f) = some documents →
    { db with documents := documents }.insert_version (new_version out c f (out.uuid 0) 1) = none →
    Registers view db out c ({ db with documents := documents }, .error .IntegrityError)
  | created {f : Prepared} {documents : Table Document Document.id} {db₁ : DB} {outcome : Except Raised Result}
    (links : Table Link Link.key) :
    prepared (view .project) out c = .ok f → given c.document_id = none →
    (view .existing).registered c.project_id f.uri = [] →
    (∀ e ∈ c.expected_version, e = 0) →
    db.documents.insert (new_document out c f) = some documents →
    { db with documents := documents }.insert_version (new_version out c f (out.uuid 0) 1) = some db₁ →
    (∀ result, outcome = .ok result →
      result = result_of f (out.uuid 0) (new_version out c f (out.uuid 0) 1) true) →
    (∀ e, outcome = .error e → c.source_task_id.all (db.has_task c.project_id) = false) →
    Registers view db out c ({ db₁ with links := links }, outcome)

theorem link_task_cases (tasks : DB) (relation : Relation) (result : Result) :
    (∃ links, link_task tasks db out c relation result = ({ db with links := links }, .ok result)) ∨
      c.source_task_id.all (tasks.has_task c.project_id) = false ∧
        ∃ e, link_task tasks db out c relation result = (db, .error e) := by
  unfold link_task
  cases hgiven : given c.source_task_id with
  | none => exact .inl ⟨db.links, rfl⟩
  | some task_id =>
    dsimp only
    split
    · exact .inl ⟨_, rfl⟩
    · rename_i hnot
      refine .inr ⟨?_, _, rfl⟩
      obtain ⟨hid, -⟩ := Option.filter_eq_some_iff.mp hgiven
      rw [hid]
      simpa using hnot

theorem foldl_newer_ne_none {documents : List Document} (best : Document) :
    documents.foldl DB.newer (some best) ≠ none := by
  induction documents generalizing best with
  | nil => exact Option.some_ne_none _
  | cons d documents ih =>
    rw [List.foldl_cons, DB.newer]
    split
    · exact ih d
    · exact ih best

/-- No document is the newest only where there is none. -/
theorem newest_eq_none {documents : List Document} (h : DB.newest documents = none) : documents = [] := by
  cases documents with
  | nil => rfl
  | cons d documents => exact absurd h (foldl_newer_ne_none d)

/-- The constraints do not look at the tasks that a version adds. -/
theorem insert_version_eq_some (h : db.insert_version v = some db') :
    ∃ versions, db.versions.insert v = some versions ∧ db' = { db with versions := versions } ∧
      (∀ q ∈ db.versions, ¬(q.document_id = v.document_id ∧ q.version = v.version)) ∧
      ∃ d ∈ db.documents, d.id = v.document_id := by
  simp only [DB.insert_version, Option.bind_eq_bind, Option.bind_eq_some_iff, Option.pure_def,
    Option.some.injEq] at h
  obtain ⟨_, hunique, _, hdocument, _, -, versions, hversions, rfl⟩ := h
  refine ⟨versions, hversions, rfl, (Option.guard_eq_some' _).mp hunique, ?_⟩
  obtain ⟨d, hd⟩ := Option.isSome_iff_exists.mp ((Option.guard_eq_some' _).mp hdocument)
  exact ⟨d, Table.find_some hd⟩

theorem has_task_congr (h : db'.tasks = db.tasks) : db'.has_task = db.has_task := by
  funext project_id task_id
  rw [DB.has_task, h]
  rfl

theorem expected_of_any {number : Int} (h : ¬c.expected_version.any (· ≠ number) = true) :
    ∀ e ∈ c.expected_version, e = number := by
  intro e he
  rw [Option.mem_def] at he
  rw [he] at h
  simpa using h

theorem update_document_cases : Registers view db out c (update_document view db out c f d) := by
  unfold update_document
  dsimp only
  split
  · exact .refused _
  · rename_i hexpected
    split
    · rename_i v hv
      obtain ⟨hcurrent, hsame⟩ := Option.filter_eq_some_iff.mp hv
      simp only [Bool.and_eq_true, beq_iff_eq] at hsame
      obtain ⟨links, h⟩ | ⟨-, e, h⟩ := @link_task_cases db out c (view .task)
        f.relation (result_of f d.id v false)
      · rw [h]
        exact .same links hcurrent hsame.1 hsame.2
      · rw [h]
        exact .refused e
    · rename_i hnone
      have hdiffers : ∀ v, (view .current).current_version d.id = some v →
          ¬(v.sha256 = f.sha256 ∧ v.uri = f.uri) := by
        intro v hv hsame
        rw [hv] at hnone
        simp [hsame] at hnone
      split
      · exact .refused _
      · rename_i db₁ hinsert
        obtain ⟨versions, -, hdb₁, -⟩ := insert_version_eq_some hinsert
        obtain ⟨links, h⟩ | ⟨htask, e, h⟩ := @link_task_cases
          (db₁.set_current out f (new_version out c f d.id ((view .current).current_number d.id + 1))) out c
          (db₁.set_current out f (new_version out c f d.id ((view .current).current_number d.id + 1)))
          f.relation (result_of f d.id (new_version out c f d.id ((view .current).current_number d.id + 1)) true)
        · rw [h]
          exact .updated links (expected_of_any hexpected) hdiffers hinsert
            (fun result hresult => (Except.ok.inj hresult).symm) (fun e he => by cases he)
        · rw [h]
          refine .updated db₁.links (expected_of_any hexpected) hdiffers hinsert
            (fun result hresult => by cases hresult) fun e he => ?_
          rw [@has_task_congr db _ (by rw [hdb₁]; rfl)] at htask
          exact htask

theorem create_document_cases (hf : prepared (view .project) out c = .ok f) (hid : given c.document_id = none)
    (hnone : (view .existing).registered c.project_id f.uri = []) :
    Registers view db out c (create_document db out c f) := by
  unfold create_document
  split
  · exact .refused _
  · rename_i hexpected
    split
    · exact .refused _
    · rename_i documents hinsert
      obtain ⟨_, -, hinsert⟩ := Option.bind_eq_some_iff.mp hinsert
      dsimp only
      split
      · rename_i hfails
        exact .halved hinsert hfails
      · rename_i db₁ hversion
        obtain ⟨versions, -, hdb₁, -⟩ := insert_version_eq_some hversion
        obtain ⟨links, h⟩ | ⟨htask, e, h⟩ := @link_task_cases db₁ out c db₁
          f.relation (result_of f (out.uuid 0) (new_version out c f (out.uuid 0) 1) true)
        · rw [h]
          exact .created links hf hid hnone (expected_of_any hexpected) hinsert hversion
            (fun result hresult => (Except.ok.inj hresult).symm) (fun e he => by cases he)
        · rw [h]
          refine .created db₁.links hf hid hnone (expected_of_any hexpected) hinsert hversion
            (fun result hresult => by cases hresult) fun e he => ?_
          rw [@has_task_congr db _ (by rw [hdb₁])] at htask
          exact htask

theorem register_document_cases : Registers view db out c (register_document view db out c) := by
  unfold register_document
  split
  · exact .refused _
  · rename_i f hf
    split
    · exact .refused _
    · exact update_document_cases
    · rename_i hexisting
      unfold existing_document at hexisting
      split at hexisting
      · obtain ⟨d, -, hd⟩ := map_eq_ok.mp hexisting
        cases hd
      · rename_i hid
        exact create_document_cases hf hid (newest_eq_none (Except.ok.inj hexisting))

/-! ## Chains -/

/-- The versions of the document are `1..n`, and its current one is `n`. -/
structure Chain (db : DB) (d : Document) (n : Nat) : Prop where
  numbers : ∀ k, (∃ v ∈ db.versions, v.document_id = d.id ∧ v.version = k) ↔ 1 ≤ k ∧ k ≤ n
  current : ∃ v ∈ db.versions, d.current_version_id = some v.id ∧ v.document_id = d.id ∧ v.version = n

structure Chained (db : DB) : Prop where
  unique : ∀ v ∈ db.versions, ∀ q ∈ db.versions, v.document_id = q.document_id → v.version = q.version → v = q
  documents : ∀ v ∈ db.versions, ∃ d ∈ db.documents, d.id = v.document_id
  chain : ∀ d ∈ db.documents, ∃ n, Chain db d n

/-- Documents stay, and so do versions. -/
structure DB.Grows (a b : DB) : Prop where
  documents : ∀ d ∈ a.documents, ∃ d' ∈ b.documents, d'.id = d.id
  versions : ∀ v ∈ a.versions, v ∈ b.versions

theorem DB.Grows.refl (a : DB) : a.Grows a := ⟨fun d hd => ⟨d, hd, rfl⟩, fun _ hv => hv⟩

theorem DB.Grows.trans {a b e : DB} (h : a.Grows b) (h' : b.Grows e) : a.Grows e where
  documents d hd := by
    obtain ⟨d', hd', hid⟩ := h.documents d hd
    obtain ⟨d'', hd'', hid'⟩ := h'.documents d' hd'
    exact ⟨d'', hd'', hid'.trans hid⟩
  versions v hv := h'.versions v (h.versions v hv)

/-- The current version is the last one. -/
theorem Chain.current_version (hd : d ∈ db.documents) (h : Chain db d n) :
    ∃ v ∈ db.versions, db.current_version d.id = some v ∧ v.document_id = d.id ∧ v.version = n := by
  obtain ⟨v, hv, hid, hdocument, hversion⟩ := h.current
  refine ⟨v, hv, ?_, hdocument, hversion⟩
  simp only [DB.current_version, Table.mem_iff_find.mp hd, Option.bind_eq_bind, Option.bind_some, hid,
    Table.mem_iff_find.mp hv]

theorem Chain.current_number (hd : d ∈ db.documents) (h : Chain db d n) : db.current_number d.id = n := by
  obtain ⟨v, -, hv, -, hversion⟩ := h.current_version hd
  rw [DB.current_number, hv]
  exact hversion

theorem Chain.pos (h : Chain db d n) : 1 ≤ n := by
  obtain ⟨v, hv, -, hdocument, hversion⟩ := h.current
  exact ((h.numbers n).mp ⟨v, hv, hdocument, hversion⟩).1

/-- A current version that has been read is one of its document. -/
theorem Chained.of_current {id : String} (h : Chained db) (hv : db.current_version id = some v) :
    v ∈ db.versions ∧ v.document_id = id := by
  simp only [DB.current_version, Option.bind_eq_bind, Option.bind_eq_some_iff] at hv
  obtain ⟨d, hd, _, hid, hv⟩ := hv
  obtain ⟨hmem, rfl⟩ := Table.find_some hd
  obtain ⟨n, hchain⟩ := h.chain d hmem
  obtain ⟨q, hq, hqid, hdocument, -⟩ := hchain.current
  obtain ⟨hvmem, hvid⟩ := Table.find_some hv
  obtain rfl : v = q := Table.eq_of_key hvmem hq (hvid.trans (Option.some.inj (hid.symm.trans hqid)))
  exact ⟨hvmem, hdocument⟩

/-- A version that can be written comes after the current one: whoever writes it has read that one. -/
theorem number_of_insert {a : DB} {id : String} (ha : Chained a) (hdb : Chained db) (hgrows : a.Grows db)
    (hd : d ∈ db.documents) (hchain : Chain db d n) (hid : d.id = id)
    (hunique : ∀ q ∈ db.versions, ¬(q.document_id = id ∧ q.version = a.current_number id + 1)) :
    a.current_number id = n ∧ a.current_version id = db.current_version id := by
  subst hid
  obtain ⟨q, hq, hcurrent, hqdocument, hqversion⟩ := hchain.current_version hd
  have hle : n ≤ a.current_number d.id := by
    by_contra hlt
    obtain ⟨v, hv, hdocument, hversion⟩ := (hchain.numbers (a.current_number d.id + 1)).mpr ⟨by omega, by omega⟩
    exact hunique v hv ⟨hdocument, hversion⟩
  have hpos := hchain.pos
  cases hread : a.current_version d.id with
  | none =>
    rw [DB.current_number, hread, Option.elim_none] at hle
    omega
  | some v =>
    obtain ⟨hv, hdocument⟩ := ha.of_current hread
    have hnumber : a.current_number d.id = v.version := by rw [DB.current_number, hread]; rfl
    have hle' := ((hchain.numbers v.version).mp ⟨v, hgrows.versions v hv, hdocument, rfl⟩).2
    have hversion : v.version = n := by omega
    refine ⟨hnumber.trans hversion, ?_⟩
    rw [hcurrent, hdb.unique v (hgrows.versions v hv) q hq (hdocument.trans hqdocument.symm)
      (hversion.trans hqversion.symm)]

/-! ## Writes -/

theorem set_current_documents {db₁ : DB} {q : Document} (hq : q ∈ (db₁.set_current out f v).documents) :
    ∃ p ∈ db₁.documents, q.id = p.id ∧ q.project_id = p.project_id ∧
      (p.id ≠ v.document_id → q = p) ∧ (p.id = v.document_id → q.current_version_id = some v.id) := by
  unfold DB.set_current at hq
  dsimp only at hq
  obtain ⟨p, hp, rfl⟩ := Table.mem_update.mp hq
  refine ⟨p, hp, ?_⟩
  by_cases hid : p.id = v.document_id
  · rw [if_pos (beq_iff_eq.mpr hid)]
    exact ⟨rfl, rfl, fun h => absurd hid h, fun _ => rfl⟩
  · rw [if_neg (by simpa using hid)]
    exact ⟨rfl, rfl, fun _ => rfl, fun h => absurd h hid⟩

theorem set_current_forth {db₁ : DB} {p : Document} (hp : p ∈ db₁.documents) :
    ∃ q ∈ (db₁.set_current out f v).documents, q.id = p.id := by
  refine ⟨_, List.mem_map.mpr ⟨p, hp, rfl⟩, ?_⟩
  split <;> rfl

/-- The next version of a document. -/
theorem chained_update {db₁ : DB} {links : Table Link Link.key} (h : Chained db) (hd : d ∈ db.documents)
    (hchain : Chain db d n) (hid : v.document_id = d.id) (hversion : v.version = n + 1)
    (hinsert : db.insert_version v = some db₁) : Chained { db₁.set_current out f v with links := links } := by
  obtain ⟨versions, hversions, rfl, hunique, -⟩ := insert_version_eq_some hinsert
  refine ⟨fun p hp q hq hdocument hnumber => ?_, fun q hq => ?_, fun e he => ?_⟩
  · rcases (Table.mem_insert hversions).mp hp with hold | rfl <;>
      rcases (Table.mem_insert hversions).mp hq with hold' | rfl
    · exact h.unique p hold q hold' hdocument hnumber
    · exact absurd ⟨hdocument, hnumber⟩ (hunique p hold)
    · exact absurd ⟨hdocument.symm, hnumber.symm⟩ (hunique q hold')
    · rfl
  · have hdocument : ∃ p ∈ db.documents, p.id = q.document_id := by
      rcases (Table.mem_insert hversions).mp hq with hq | rfl
      · exact h.documents q hq
      · exact ⟨d, hd, hid.symm⟩
    obtain ⟨p, hp, hpid⟩ := hdocument
    obtain ⟨p', hp', hid'⟩ := @set_current_forth out f v _ _ hp
    exact ⟨p', hp', hid'.trans hpid⟩
  · obtain ⟨p, hp, hep, -, hother, hown⟩ := set_current_documents he
    by_cases hpd : p.id = v.document_id
    · obtain rfl : p = d := Table.eq_of_key hp hd (hpd.trans hid)
      refine ⟨n + 1, fun k => ⟨?_, fun hk => ?_⟩, v, (Table.mem_insert hversions).mpr (.inr rfl), hown hpd,
        hid.trans hep.symm, hversion⟩
      · rintro ⟨q, hq, hqid, rfl⟩
        rcases (Table.mem_insert hversions).mp hq with hq | rfl
        · have hle := (hchain.numbers q.version).mp ⟨q, hq, hqid.trans hep, rfl⟩
          omega
        · omega
      · by_cases hlast : k = n + 1
        · exact ⟨v, (Table.mem_insert hversions).mpr (.inr rfl), hid.trans hep.symm, by omega⟩
        · obtain ⟨q, hq, hqid, hk⟩ := (hchain.numbers k).mpr (by omega)
          exact ⟨q, (Table.mem_insert hversions).mpr (.inl hq), hqid.trans hep.symm, hk⟩
    · obtain rfl := hother hpd
      obtain ⟨m, hm⟩ := h.chain e hp
      obtain ⟨q, hq, hcurrent⟩ := hm.current
      refine ⟨m, fun k => ⟨?_, fun hk => ?_⟩, q, (Table.mem_insert hversions).mpr (.inl hq), hcurrent⟩
      · rintro ⟨q, hq, hqid, hk⟩
        rcases (Table.mem_insert hversions).mp hq with hq | rfl
        · exact (hm.numbers k).mp ⟨q, hq, hqid, hk⟩
        · exact absurd hqid.symm hpd
      · obtain ⟨q, hq, hqid, hk⟩ := (hm.numbers k).mpr hk
        exact ⟨q, (Table.mem_insert hversions).mpr (.inl hq), hqid, hk⟩

/-- A new document with its first version. -/
theorem chained_create {db₁ : DB} {documents : Table Document Document.id} {links : Table Link Link.key}
    (h : Chained db) (hdocuments : db.documents.insert d = some documents) (hid : v.document_id = d.id)
    (hversion : v.version = 1) (hcurrent : d.current_version_id = some v.id)
    (hinsert : { db with documents := documents }.insert_version v = some db₁) :
    Chained { db₁ with links := links } := by
  obtain ⟨versions, hversions, rfl, -⟩ := insert_version_eq_some hinsert
  have hnew : ∀ q ∈ db.documents, q.id ≠ d.id := fun q hq hqid =>
    (Table.insert_eq_some hdocuments).2 (List.mem_map.mpr ⟨q, hq, hqid⟩)
  have hnone : ∀ q ∈ db.versions, q.document_id ≠ d.id := by
    intro q hq hqid
    obtain ⟨p, hp, hpid⟩ := h.documents q hq
    exact hnew p hp (hpid.trans hqid)
  refine ⟨fun p hp q hq hdocument hnumber => ?_, fun q hq => ?_, fun e he => ?_⟩
  · rcases (Table.mem_insert hversions).mp hp with hold | rfl <;>
      rcases (Table.mem_insert hversions).mp hq with hold' | rfl
    · exact h.unique p hold q hold' hdocument hnumber
    · exact absurd (hdocument.trans hid) (hnone p hold)
    · exact absurd (hdocument.symm.trans hid) (hnone q hold')
    · rfl
  · rcases (Table.mem_insert hversions).mp hq with hq | rfl
    · obtain ⟨p, hp, hpid⟩ := h.documents q hq
      exact ⟨p, (Table.mem_insert hdocuments).mpr (.inl hp), hpid⟩
    · exact ⟨d, (Table.mem_insert hdocuments).mpr (.inr rfl), hid.symm⟩
  · rcases (Table.mem_insert hdocuments).mp he with he | rfl
    · obtain ⟨m, hm⟩ := h.chain e he
      obtain ⟨q, hq, hlast⟩ := hm.current
      refine ⟨m, fun k => ⟨?_, fun hk => ?_⟩, q, (Table.mem_insert hversions).mpr (.inl hq), hlast⟩
      · rintro ⟨q, hq, hqid, hk⟩
        rcases (Table.mem_insert hversions).mp hq with hq | rfl
        · exact (hm.numbers k).mp ⟨q, hq, hqid, hk⟩
        · exact absurd (hqid.symm.trans hid) (hnew e he)
      · obtain ⟨q, hq, hqid, hk⟩ := (hm.numbers k).mpr hk
        exact ⟨q, (Table.mem_insert hversions).mpr (.inl hq), hqid, hk⟩
    · refine ⟨1, fun k => ⟨?_, fun hk => ?_⟩, v, (Table.mem_insert hversions).mpr (.inr rfl), hcurrent, hid, hversion⟩
      · rintro ⟨q, hq, hqid, rfl⟩
        rcases (Table.mem_insert hversions).mp hq with hq | rfl
        · exact absurd hqid (hnone q hq)
        · omega
      · exact ⟨v, (Table.mem_insert hversions).mpr (.inr rfl), hid, by omega⟩

theorem grows_update {db₁ : DB} {links : Table Link Link.key} (hinsert : db.insert_version v = some db₁) :
    db.Grows { db₁.set_current out f v with links := links } := by
  obtain ⟨versions, hversions, rfl, -⟩ := insert_version_eq_some hinsert
  exact ⟨fun p hp => set_current_forth hp, fun q hq => (Table.mem_insert hversions).mpr (.inl hq)⟩

theorem grows_create {db₁ : DB} {documents : Table Document Document.id} {links : Table Link Link.key}
    (hdocuments : db.documents.insert d = some documents)
    (hinsert : { db with documents := documents }.insert_version v = some db₁) :
    db.Grows { db₁ with links := links } := by
  obtain ⟨versions, hversions, rfl, -⟩ := insert_version_eq_some hinsert
  exact ⟨fun p hp => ⟨p, (Table.mem_insert hdocuments).mpr (.inl hp), rfl⟩,
    fun q hq => (Table.mem_insert hversions).mpr (.inl hq)⟩

/-- With a task that is there, the first version of a new document can be inserted. -/
theorem insert_first_version {documents : Table Document Document.id} (h : Chained db)
    (hfresh : db.versions.find (out.uuid 1) = none)
    (hinsert : db.documents.insert (new_document out c f) = some documents)
    (htask : c.source_task_id.all (db.has_task c.project_id) = true) :
    { db with documents := documents }.insert_version (new_version out c f (out.uuid 0) 1) ≠ none := by
  have hnew : ∀ q ∈ db.documents, q.id ≠ out.uuid 0 := fun q hq hqid =>
    (Table.insert_eq_some hinsert).2 (List.mem_map.mpr ⟨q, hq, hqid⟩)
  have hunique : ∀ q ∈ db.versions.rows,
      ¬(q.document_id = (new_version out c f (out.uuid 0) 1).document_id ∧
        q.version = (new_version out c f (out.uuid 0) 1).version) := by
    rintro q hq ⟨hqid, -⟩
    obtain ⟨p, hp, hpid⟩ := h.documents q hq
    exact hnew p hp (hpid.trans hqid)
  have hdocument : (documents.find (out.uuid 0)).isSome = true := by
    have hmem : new_document out c f ∈ documents := (Table.mem_insert hinsert).mpr (.inr rfl)
    rw [show documents.find (out.uuid 0) = _ from Table.mem_iff_find.mp hmem]
    rfl
  have hreferenced : (c.source_task_id.all fun id => (db.tasks.find id).isSome) = true := by
    cases hid : c.source_task_id with
    | none => rfl
    | some id =>
      rw [hid, Option.all_some, DB.has_task] at htask
      rw [Option.all_some]
      cases hfind : db.tasks.find id with
      | none => rw [hfind] at htask; cases htask
      | some t => rfl
  obtain ⟨versions, hversions⟩ :=
    Table.insert_of_find_none (t := db.versions) (r := new_version out c f (out.uuid 0) 1) hfresh
  refine Option.ne_none_iff_exists'.mpr ⟨{ db with documents := documents, versions := versions }, ?_⟩
  exact Option.bind_eq_some_iff.mpr ⟨(), (Option.guard_eq_some' ()).mpr hunique,
    Option.bind_eq_some_iff.mpr ⟨(), (Option.guard_eq_some' ()).mpr hdocument,
      Option.bind_eq_some_iff.mpr ⟨(), (Option.guard_eq_some' ()).mpr hreferenced,
        Option.bind_eq_some_iff.mpr ⟨versions, hversions, rfl⟩⟩⟩⟩

/-! ## Runs -/

/-- What a step keeps to. -/
structure Sound (r r' : Registry) (c : Call) (seen : Read → Nat) (outcome : Except Raised Result) : Prop where
  /-- No version is written for an expectation that does not hold. -/
  expected : ∀ v ∈ r'.now.versions, v ∉ r.now.versions →
    ∀ e ∈ c.expected_version, e = r.now.current_number v.document_id
  /-- A call that returns leaves the versions exactly if it has read the file as the current version. -/
  noop : ∀ result, outcome = .ok result → (r'.now.versions = r.now.versions ↔
    ∃ v, (r.view seen .current).current_version result.document_id = some v ∧ v.uri = result.uri ∧
      v.sha256 = result.sha256)
  /-- A call that writes a version has read the current one. -/
  present : ∀ result, outcome = .ok result → r'.now.versions ≠ r.now.versions →
    (r.view seen .current).current_version result.document_id = r.now.current_version result.document_id
  /-- A document is created only for a file that no active document of the project is at. -/
  created : ∀ d ∈ r'.now.documents, (∀ q ∈ r.now.documents, q.id ≠ d.id) → ∀ v ∈ r'.now.versions,
    v.document_id = d.id → r.now.registered d.project_id v.uri = []
  raised : ∀ e, outcome = .error e → r'.now = r.now

/-- What holds of the registry. -/
structure Kept (r : Registry) : Prop where
  chained : ∀ k, Chained (Past.ago r.now r.past k)
  grown : Past.Ordered DB.Grows r.now r.past

variable {r r' : Registry} {seen : Read → Nat} {keeps : Bool}

theorem Kept.push (h : Kept r) (hchained : Chained r'.now) (hgrows : r.now.Grows r'.now)
    (hpast : r'.past = r.now :: r.past) : Kept r' := by
  refine ⟨fun k => ?_, ?_⟩
  · rw [hpast]
    exact Past.forall_ago h.chained hchained k
  · rw [hpast]
    exact h.grown.push .refl (fun _ _ _ => .trans) hgrows

/-- Where nothing is written. -/
theorem Sound.of_same {outcome : Except Raised Result} (hdocuments : r'.now.documents = r.now.documents)
    (hversions : r'.now.versions = r.now.versions) (hraised : ∀ e, outcome = .error e → r'.now = r.now)
    (hnoop : ∀ result, outcome = .ok result → ∃ v,
      (r.view seen .current).current_version result.document_id = some v ∧ v.uri = result.uri ∧
        v.sha256 = result.sha256) : Sound r r' c seen outcome where
  expected _ hv hnew := absurd (hversions ▸ hv) hnew
  noop result h := ⟨fun _ => hnoop result h, fun _ => hversions⟩
  present _ _ hne := absurd hversions hne
  created d hd hnew := absurd rfl (hnew d (hdocuments ▸ hd))
  raised := hraised

/-- The tables after a call that has raised and is rolled back. -/
theorem Sound.of_rollback {e : Raised} (h : r'.now = r.now) : Sound r r' c seen (.error e) :=
  .of_same (by rw [h]) (by rw [h]) (fun _ _ => h) (fun _ h => by cases h)

/-- A version of a document that is there. -/
theorem sound_updated {id : String} {db₁ : DB} {links : Table Link Link.key} (h : Kept r)
    (hexpected : ∀ e ∈ c.expected_version, e = ((r.view seen .current).current_number id : Int))
    (hdiffers : ∀ v, (r.view seen .current).current_version id = some v →
      ¬(v.sha256 = f.sha256 ∧ v.uri = f.uri))
    (hinsert : r.now.insert_version (new_version out c f id ((r.view seen .current).current_number id + 1)) =
      some db₁)
    (hr' : r' = ⟨{ db₁.set_current out f
      (new_version out c f id ((r.view seen .current).current_number id + 1)) with links := links },
      r.now :: r.past⟩) :
    Kept r' ∧ Sound r r' c seen
      (.ok (result_of f id (new_version out c f id ((r.view seen .current).current_number id + 1)) true)) := by
  have hnow : Chained r.now := h.chained 0
  have hview : Chained (r.view seen .current) := h.chained _
  have hgrown : (r.view seen .current).Grows r.now := h.grown.latest _
  obtain ⟨versions, hversions, hdb₁, hunique, d, hd, hid⟩ := insert_version_eq_some hinsert
  obtain ⟨n, hchain⟩ := hnow.chain d hd
  obtain ⟨hnumber, hread⟩ := number_of_insert hview hnow hgrown hd hchain hid hunique
  rw [new_version_document_id] at hid
  have hcurrent : r.now.current_number id = n := hid ▸ hchain.current_number hd
  have hrows : r'.now.versions = versions := by rw [hr', hdb₁]; rfl
  have hnew : ∀ v ∈ r'.now.versions, v ∉ r.now.versions →
      v = new_version out c f id ((r.view seen .current).current_number id + 1) := by
    intro v hv hold
    rw [hrows] at hv
    exact ((Table.mem_insert hversions).mp hv).resolve_left hold
  have hchanged : r'.now.versions ≠ r.now.versions := by
    intro hsame
    refine (Table.insert_eq_some hversions).2 (List.mem_map.mpr ⟨_, ?_, rfl⟩)
    rw [← Table.mem_def, ← hsame, hrows]
    exact (Table.mem_insert hversions).mpr (.inr rfl)
  subst hr'
  refine ⟨h.push (chained_update hnow hd hchain hid.symm (by rw [← hnumber]; rfl) hinsert)
    (grows_update hinsert) rfl, ?_⟩
  exact
    { expected := fun v hv hold e he => by
        rw [hnew v hv hold, new_version_document_id, hcurrent, ← hnumber]
        exact hexpected e he
      noop := fun result hresult => by
        cases hresult
        refine ⟨fun hsame => absurd hsame hchanged, fun hsame => ?_⟩
        obtain ⟨v, hv, huri, hsha⟩ := hsame
        exact absurd ⟨hsha, huri⟩ (hdiffers v hv)
      present := fun result hresult _ => by
        cases hresult
        exact hread
      created := fun q hq hfresh => by
        obtain ⟨p, hp, hqp, -⟩ := set_current_documents hq
        rw [hdb₁] at hp
        exact absurd hqp.symm (hfresh p hp)
      raised := fun e he => by cases he }

/-- A document for a new file. -/
theorem sound_created {documents : Table Document Document.id} {db₁ : DB} {links : Table Link Link.key}
    (h : Kept r) (hexpected : ∀ e ∈ c.expected_version, e = 0)
    (hdocuments : r.now.documents.insert (new_document out c f) = some documents)
    (hinsert : { r.now with documents := documents }.insert_version (new_version out c f (out.uuid 0) 1) = some db₁)
    (hnone : r.now.registered c.project_id f.uri = [])
    (hr' : r' = ⟨{ db₁ with links := links }, r.now :: r.past⟩) :
    Kept r' ∧ Sound r r' c seen (.ok (result_of f (out.uuid 0) (new_version out c f (out.uuid 0) 1) true)) := by
  have hnow : Chained r.now := h.chained 0
  have hgrown : (r.view seen .current).Grows r.now := h.grown.latest _
  obtain ⟨versions, hversions, hdb₁, -⟩ := insert_version_eq_some hinsert
  have hnew : ∀ q ∈ r.now.documents, q.id ≠ out.uuid 0 := fun q hq hqid =>
    (Table.insert_eq_some hdocuments).2 (List.mem_map.mpr ⟨q, hq, hqid⟩)
  have hmissing : ∀ {db : DB}, db.Grows r.now → db.current_version (out.uuid 0) = none := by
    intro db hgrows
    cases hfind : db.documents.find (out.uuid 0) with
    | none => rw [DB.current_version, hfind]; rfl
    | some d =>
      obtain ⟨hd, hid⟩ := Table.find_some hfind
      obtain ⟨d', hd', hid'⟩ := hgrows.documents d hd
      exact absurd (hid'.trans hid) (hnew d' hd')
  have hadded : ∀ v ∈ r'.now.versions, v ∉ r.now.versions → v = new_version out c f (out.uuid 0) 1 := by
    intro v hv hold
    rw [hr', hdb₁] at hv
    exact ((Table.mem_insert hversions).mp hv).resolve_left hold
  have hchanged : r'.now.versions ≠ r.now.versions := by
    intro hsame
    refine (Table.insert_eq_some hversions).2 (List.mem_map.mpr ⟨_, ?_, rfl⟩)
    rw [← Table.mem_def]
    change new_version out c f (out.uuid 0) 1 ∈ r.now.versions
    rw [← hsame, hr', hdb₁]
    exact (Table.mem_insert hversions).mpr (.inr rfl)
  have hdocument : ∀ d ∈ r'.now.documents, (∀ q ∈ r.now.documents, q.id ≠ d.id) → d = new_document out c f := by
    intro d hd hfresh
    rw [hr', hdb₁] at hd
    exact ((Table.mem_insert hdocuments).mp hd).resolve_left fun hold => hfresh d hold rfl
  have hown : ∀ v ∈ r'.now.versions, v.document_id = out.uuid 0 → v = new_version out c f (out.uuid 0) 1 := by
    refine fun v hv hid => hadded v hv fun hold => ?_
    obtain ⟨p, hp, hpid⟩ := hnow.documents v hold
    exact hnew p hp (hpid.trans hid)
  subst hr'
  refine ⟨h.push (chained_create hnow hdocuments rfl rfl rfl hinsert) (grows_create hdocuments hinsert) rfl, ?_⟩
  exact
    { expected := fun v hv hold e he => by
        rw [hadded v hv hold, new_version_document_id, DB.current_number, hmissing (.refl _)]
        exact hexpected e he
      noop := fun result hresult => by
        cases hresult
        refine ⟨fun hsame => absurd hsame hchanged, fun hsame => ?_⟩
        obtain ⟨v, hv, -⟩ := hsame
        rw [result_of_document_id, hmissing hgrown] at hv
        cases hv
      present := fun result hresult _ => by
        cases hresult
        exact (hmissing hgrown).trans (hmissing (.refl _)).symm
      created := fun d hd hfresh v hv hid => by
        rw [hdocument d hd hfresh] at hid ⊢
        rw [hown v hv hid]
        exact hnone
      raised := fun e he => by cases he }

/-- A careful call keeps the chains. -/
theorem sound_register (h : Kept r) (hcareful : r.careful (.register c out seen keeps) = true)
    (hs : r.step (.register c out seen keeps) = some r') :
    Kept r' ∧ Sound r r' c seen (register_document (r.view seen) r.now out c).2 := by
  simp only [Registry.step, Option.bind_eq_bind, Option.bind_eq_some_iff, Option.pure_def, Option.some.injEq] at hs
  obtain ⟨_, hfresh, rfl⟩ := hs
  have hfresh := (Option.guard_eq_some' _).mp hfresh
  simp only [Registry.fresh, Bool.and_eq_true, Option.isNone_iff_eq_none] at hfresh
  simp only [Registry.careful, Bool.and_eq_true] at hcareful
  obtain ⟨hlookup, htask⟩ := hcareful
  have hnow : Chained r.now := h.chained 0
  have hrollback : ∀ {db : DB} {e : Raised}, Registry.left keeps r.now (db, .error e) = r.now →
      Kept ⟨Registry.left keeps r.now (db, .error e), r.now :: r.past⟩ ∧
        Sound r ⟨Registry.left keeps r.now (db, .error e), r.now :: r.past⟩ c seen (.error e) :=
    fun heq => ⟨h.push (by rw [heq]; exact hnow) (by rw [heq]; exact .refl _) rfl, .of_rollback heq⟩
  -- a caller that keeps what is written names a task of the project
  have hleft : ∀ {db : DB} {e : Raised}, c.source_task_id.all (r.now.has_task c.project_id) = false →
      Registry.left keeps r.now (db, .error e) = r.now := by
    intro db e hno
    cases keeps with
    | false => rfl
    | true => rw [hno] at htask; cases htask
  have hcases := @register_document_cases (r.view seen) r.now out c
  generalize register_document (r.view seen) r.now out c = p at hcases ⊢
  cases hcases with
  | refused e => exact hrollback (by cases keeps <;> rfl)
  | same links hcurrent hsha huri =>
    refine ⟨h.push ⟨hnow.unique, hnow.documents, fun d hd => ?_⟩ ⟨fun d hd => ⟨d, hd, rfl⟩, fun _ hv => hv⟩ rfl,
      .of_same rfl rfl (fun e he => by cases he) fun result hresult => ?_⟩
    · obtain ⟨n, hchain⟩ := hnow.chain d hd
      exact ⟨n, hchain.numbers, hchain.current⟩
    · cases hresult
      exact ⟨_, hcurrent, huri, hsha⟩
  | halved hdocuments hfails =>
    cases keeps with
    | false => exact hrollback rfl
    | true => exact absurd hfails (insert_first_version hnow hfresh.2 hdocuments htask)
  | @updated f id db₁ outcome links hexpected hdiffers hinsert hok hraised =>
    cases outcome with
    | error e => exact hrollback (hleft (hraised e rfl))
    | ok result =>
      obtain rfl := hok result rfl
      exact sound_updated h hexpected hdiffers hinsert rfl
  | @created f documents db₁ outcome links hf hid hnone hexpected hdocuments hinsert hok hraised =>
    cases outcome with
    | error e => exact hrollback (hleft (hraised e rfl))
    | ok result =>
      obtain rfl := hok result rfl
      have hnow' : r.now.registered c.project_id f.uri = [] := by
        rw [hf, hid, Except.toOption, Option.all_some, hnone] at hlookup
        simpa using hlookup
      exact sound_created h hexpected hdocuments hinsert hnow' rfl

theorem inductive_kept : registry.InductiveIf (fun r l => r.careful l = true) Kept where
  init r hr := by
    have hdocuments : ∀ d, d ∉ r.now.documents := fun d hd => by
      rw [Table.mem_def, hr.1] at hd
      exact List.not_mem_nil hd
    have hversions : ∀ v, v ∉ r.now.versions := fun v hv => by
      rw [Table.mem_def, hr.2.1] at hv
      exact List.not_mem_nil hv
    refine ⟨fun k => ?_, ?_⟩
    · rw [hr.2.2, Past.ago_nil]
      exact ⟨fun v hv => absurd hv (hversions v), fun v hv => absurd hv (hversions v),
        fun d hd => absurd hd (hdocuments d)⟩
    · rw [hr.2.2]
      exact .nil .refl _
  step r l r' h hcareful hs := by
    cases l with
    | register c out seen keeps => exact (sound_register h hcareful hs).1
    | elsewhere projects tasks =>
      simp only [registry, Registry.step, Option.bind_eq_bind, Option.bind_eq_some_iff, Option.pure_def,
        Option.some.injEq] at hs
      obtain ⟨_, -, rfl⟩ := hs
      have hnow : Chained r.now := h.chained 0
      refine h.push ⟨hnow.unique, hnow.documents, fun d hd => ?_⟩ ⟨fun d hd => ⟨d, hd, rfl⟩, fun _ hv => hv⟩ rfl
      obtain ⟨n, hchain⟩ := hnow.chain d hd
      exact ⟨n, hchain.numbers, hchain.current⟩

/-- In every run in which no call for a new file has missed another one, and no caller goes on after a task
of another project, the versions of each document are `1..n` and the current one is `n`, and every call
keeps to what it has read. -/
theorem versions_chained {r : Registry} (h : registry.ReachableIf (fun r l => r.careful l = true) r) :
    (∀ d ∈ r.now.documents, ∃ n, Chain r.now d n) ∧
    ∀ c out seen keeps r', r.careful (.register c out seen keeps) = true →
      registry.step r (.register c out seen keeps) = some r' →
      Sound r r' c seen (register_document (r.view seen) r.now out c).2 :=
  have hkept : Kept r := inductive_kept.reachable h
  ⟨(hkept.chained 0).chain, fun _ _ _ _ _ hcareful hs => (sound_register hkept hcareful hs).2⟩

namespace Sample

/-- Every path is a file with the one content. -/
def outside (now : Int) (ids : List String) (content : String) : Outside where
  resolve := some
  resolve_loosely := id
  is_file _ := true
  sha256 _ := some content
  size _ := 4
  guess_type _ := none
  now := now
  uuid n := ids.getD n ""

def call (project_id : String) (source_task_id : Option String) : Call where
  project_id := project_id
  title := "plan"
  uri := "/w/plan.md"
  approved_roots := ["/w"]
  created_by := "rep"
  category := none
  summary := ""
  source_task_id := source_task_id
  source_agent_id := none
  source_session_id := none
  source_run_id := none
  document_id := none
  expected_version := none
  relation := none

/-- Two projects, and a task of the second one. -/
def start : Registry where
  now :=
    { projects := ⟨[⟨"p", "active"⟩, ⟨"q", "active"⟩], by decide⟩
      tasks := ⟨[⟨"t", "q"⟩], by decide⟩
      documents := .empty
      versions := .empty
      links := .empty }
  past := []

theorem init_start : registry.init start := ⟨rfl, rfl, rfl⟩

def latest : Read → Nat := fun _ => 0

/-- A call that has looked for the document before the last write. -/
def before : Read → Nat
  | .existing => 1
  | _ => 0

def first : Registry.Label := .register (call "p" none) (outside 1 ["d", "v"] "one") latest false

/-- A second one that has looked before. -/
def second : Registry.Label := .register (call "p" none) (outside 2 ["d2", "v2"] "one") before true

/-- A call for a task of the other project. -/
def foreign : Registry.Label := .register (call "p" (some "t")) (outside 3 ["d3", "v3"] "two") latest true

def next : Registry.Label := .register (call "p" none) (outside 4 ["d4", "v4"] "two") latest true

end Sample

open Sample in
/-- Two calls for one new file create two documents; and a call that raises leaves a version. -/
theorem registered_twice :
    registry.Reachable (registry.after start [first, second]) ∧
    ((registry.after start [first, second]).now.registered "p" "/w/plan.md").map Document.id = ["d", "d2"] ∧
    registry.Reachable (registry.after start [first]) ∧
    (register_document ((registry.after start [first]).view latest) (registry.after start [first]).now
      (outside 3 ["d3", "v3"] "two") (call "p" (some "t"))).2 =
      .error (.DocumentRegistrationError "task does not belong to project") ∧
    ((registry.after start [first]).now.versions.rows.map Version.id,
      (registry.after start [first, foreign]).now.versions.rows.map Version.id) = (["v"], ["v", "v3"]) := by
  refine ⟨Machine.reachable_after init_start _, ?_, Machine.reachable_after init_start _, ?_, ?_⟩
  · decide +kernel
  · decide +kernel
  · decide +kernel

open Sample in
/-- A document of the sample with two versions. -/
theorem versions_chained_sample :
    ∃ d ∈ (registry.after start [first, next]).now.documents, d.id = "d" ∧
      ∃ n, Chain (registry.after start [first, next]).now d n := by
  have hfind : ((registry.after start [first, next]).now.documents.find "d").isSome = true := by decide +kernel
  obtain ⟨d, hd⟩ := Option.isSome_iff_exists.mp hfind
  obtain ⟨hmem, hid⟩ := Table.find_some hd
  have hreachable : registry.ReachableIf (fun r l => r.careful l = true) (registry.after start [first, next]) :=
    Machine.reachableIf_after init_start (by decide +kernel)
  exact ⟨d, hmem, hid, (versions_chained hreachable).1 d hmem⟩

end Documents

end Plachem
