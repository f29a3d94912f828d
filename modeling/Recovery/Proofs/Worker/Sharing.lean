import Mathlib.Data.List.Nodup
import Recovery.Proofs.Worker.Volumes
/-!
# Sharing the volumes of a worker

Volumes are asked for one after another. A request is granted just if it goes with all volumes that
are there, so it does not matter in which order volumes are asked for.
-/
set_option autoImplicit false

namespace Recovery

namespace WorkerVolume

/-- One and the same volume, or two that can be mounted side by side. -/
def GoesWith (v v' : WorkerVolume) : Prop := v = v' ∨ v.Apart v'

theorem GoesWith.symm {v v' : WorkerVolume} (h : v.GoesWith v') : v'.GoesWith v := by
  rcases h with rfl | apart
  · exact .inl rfl
  · exact .inr (Std.Symm.symm _ _ apart)

end WorkerVolume

namespace WorkerOptions

variable {o o' : WorkerOptions} {v : WorkerVolume} {vs vs' : List WorkerVolume}

/-- The options with the volume, which comes last if it is a new one. -/
def mount (o : WorkerOptions) (v : WorkerVolume) : WorkerOptions :=
  if v ∈ o.volumes then o else { o with volumes := o.volumes ++ [v] }

/-- What a request leaves behind; one that is refused changes nothing. -/
def request (o : WorkerOptions) (v : WorkerVolume) : WorkerOptions :=
  (o.addVolume v).toOption.getD o

/-! ## One request -/

theorem mem_mount {v' : WorkerVolume} : v' ∈ (o.mount v).volumes ↔ v' ∈ o.volumes ∨ v' = v := by
  unfold mount
  by_cases mem : v ∈ o.volumes
  · rw [if_pos mem]
    constructor
    · exact .inl
    · rintro (h | rfl)
      · exact h
      · exact mem
  · simp [mem]

theorem mount_rest : ∃ volumes, o.mount v = { o with volumes } := by
  unfold mount
  split
  · exact ⟨o.volumes, rfl⟩
  · exact ⟨_, rfl⟩

/-- What is looked for by its name and by its place conflicts unless it goes with all. -/
theorem conflict?_eq_none_iff (distinct : o.Distinct) :
    conflict? o.volumes v = none ↔ ∀ v' ∈ o.volumes, v.GoesWith v' := by
  constructor
  · intro free v' mem
    rcases conflict?_eq_none free with present | apart
    · by_cases same : v = v'
      · exact .inl same
      · exact .inr (distinct.forall present mem same)
    · exact .inr (Std.Symm.symm _ _ (apart v' mem))
  · intro goes
    have clash : ∀ v' ∈ o.volumes, v'.name = v.name ∨ v'.mountPath = v.mountPath → v' = v := by
      intro v' mem shared
      rcases goes v' mem with rfl | apart
      · rfl
      · exact absurd shared (not_or_intro apart.name.symm apart.mountPath.symm)
    unfold conflict?
    split
    · rename_i other named
      have same := clash other (List.mem_of_find?_eq_some named)
        (.inl (by simpa using List.find?_some named))
      exact if_pos same
    · rename_i unnamed
      refine Option.map_eq_none_iff.mpr (List.find?_eq_none.mpr fun v' mem placed => ?_)
      obtain rfl := clash v' mem (.inr (by simpa using placed))
      simpa using List.find?_eq_none.mp unnamed v' mem

theorem addVolume_eq_ok_iff (distinct : o.Distinct) :
    o.addVolume v = .ok o' ↔ (∀ v' ∈ o.volumes, v.GoesWith v') ∧ o' = o.mount v := by
  rw [← conflict?_eq_none_iff distinct]
  unfold addVolume mount
  cases conflict? o.volumes v with
  | none => simp [eq_comm]
  | some message => simp

theorem addVolume_isOk_iff (distinct : o.Distinct) :
    (o.addVolume v).isOk = true ↔ ∀ v' ∈ o.volumes, v.GoesWith v' := by
  constructor
  · intro granted
    cases added : o.addVolume v with
    | error fault =>
      rw [added] at granted
      cases granted
    | ok o' => exact ((addVolume_eq_ok_iff distinct).mp added).1
  · intro goes
    rw [(addVolume_eq_ok_iff distinct).mpr ⟨goes, rfl⟩]
    rfl

theorem request_of_ok (h : o.addVolume v = .ok o') : o.request v = o' := by
  rw [request, h]
  rfl

theorem request_of_error {fault : Fault} (h : o.addVolume v = .error fault) : o.request v = o := by
  rw [request, h]
  rfl

theorem Distinct.request (distinct : o.Distinct) : (o.request v).Distinct := by
  cases added : o.addVolume v with
  | error fault =>
    rw [request_of_error added]
    exact distinct
  | ok o' =>
    rw [request_of_ok added]
    exact (distinct.addVolume added).1.distinct

theorem request_rest (distinct : o.Distinct) : ∃ volumes, o.request v = { o with volumes } := by
  cases added : o.addVolume v with
  | error fault => exact ⟨o.volumes, request_of_error added⟩
  | ok o' =>
    rw [request_of_ok added, ((addVolume_eq_ok_iff distinct).mp added).2]
    exact mount_rest

/-! ## One request after another -/

/-- What is left behind by requests, whether or not each of them is granted. -/
def after (o : WorkerOptions) (vs : List WorkerVolume) : WorkerOptions :=
  vs.foldl WorkerOptions.request o

theorem Distinct.after (distinct : o.Distinct) : (o.after vs).Distinct := by
  induction vs generalizing o with
  | nil => exact distinct
  | cons v vs ih => exact ih distinct.request

theorem after_rest (distinct : o.Distinct) : ∃ volumes, o.after vs = { o with volumes } := by
  induction vs generalizing o with
  | nil => exact ⟨o.volumes, rfl⟩
  | cons v vs ih =>
    obtain ⟨volumes, left⟩ := ih (distinct.request (v := v))
    obtain ⟨between, first⟩ := request_rest distinct (v := v)
    refine ⟨volumes, left.trans ?_⟩
    rw [first]

theorem mem_foldl_mount : v ∈ (vs.foldl mount o).volumes ↔ v ∈ o.volumes ∨ v ∈ vs := by
  induction vs generalizing o with
  | nil => simp
  | cons u vs ih =>
    rw [List.foldl_cons, ih, mem_mount, List.mem_cons, or_assoc]

/-- New volumes come after the old ones, in the order in which they were first asked for. -/
theorem volumes_foldl_mount :
    (vs.foldl mount o).volumes = o.volumes ++ (vs.filter (· ∉ o.volumes)).eraseDups := by
  induction vs generalizing o with
  | nil => simp
  | cons v vs ih =>
    rw [List.foldl_cons, ih]
    by_cases mem : v ∈ o.volumes
    · simp [mount, mem]
    · have others : (vs.filter (· ∉ o.volumes)).filter (fun u => !u == v) =
          vs.filter (· ∉ o.volumes ++ [v]) := by
        rw [List.filter_filter]
        apply List.filter_congr
        intro u _
        by_cases same : u = v <;> simp [same]
      simp only [mount, mem, if_false, not_false_eq_true, decide_true, List.filter_cons_of_pos,
        List.eraseDups_cons, others]
      simp

/-- A sequence is granted as a whole just if every request goes with all others and with what is
there from the start. -/
theorem foldlM_addVolume_eq_ok_iff (distinct : o.Distinct) :
    vs.foldlM addVolume o = .ok o' ↔
      (∀ v ∈ vs, ∀ v' ∈ o.volumes ++ vs, v.GoesWith v') ∧ o' = vs.foldl mount o := by
  induction vs generalizing o with
  | nil => simp [pure, Except.pure, eq_comm]
  | cons v vs ih =>
    have first : (v :: vs).foldlM addVolume o = .ok o' ↔
        ∃ middle, o.addVolume v = .ok middle ∧ vs.foldlM addVolume middle = .ok o' := by
      rw [List.foldlM_cons]
      cases o.addVolume v <;> simp [bind, Except.bind]
    rw [first]
    constructor
    · rintro ⟨middle, added, rest⟩
      obtain ⟨goes, rfl⟩ := (addVolume_eq_ok_iff distinct).mp added
      obtain ⟨others, rfl⟩ := (ih (distinct.addVolume added).1.distinct).mp rest
      refine ⟨fun u asked u' there => ?_, rfl⟩
      have later : ∀ u ∈ vs, ∀ u' ∈ o.volumes ++ v :: vs, u.GoesWith u' := by
        intro u mem u' there
        apply others u mem
        rw [List.mem_append, mem_mount, or_assoc]
        exact List.mem_append.mp there |>.imp_right List.mem_cons.mp
      rcases List.mem_cons.mp asked with rfl | asked
      · rcases List.mem_append.mp there with there | there
        · exact goes u' there
        · rcases List.mem_cons.mp there with rfl | there
          · exact .inl rfl
          · exact (later u' there u (by simp)).symm
      · exact later u asked u' there
    · rintro ⟨goes, rfl⟩
      have added : o.addVolume v = .ok (o.mount v) :=
        (addVolume_eq_ok_iff distinct).mpr ⟨fun v' mem => goes v (by simp) v' (by simp [mem]), rfl⟩
      refine ⟨o.mount v, added, (ih (distinct.addVolume added).1.distinct).mpr ⟨?_, rfl⟩⟩
      intro u asked u' there
      apply goes u (by simp [asked])
      rw [List.mem_append, mem_mount, or_assoc] at there
      exact List.mem_append.mpr (there.imp_right List.mem_cons.mpr)

/-- Where all are granted it makes no difference that a refused one would have been passed over. -/
theorem after_of_foldlM (h : vs.foldlM addVolume o = .ok o') : o.after vs = o' := by
  induction vs generalizing o with
  | nil => exact Except.ok.inj h
  | cons v vs ih =>
    rw [List.foldlM_cons] at h
    cases added : o.addVolume v with
    | error fault =>
      rw [added] at h
      cases h
    | ok middle =>
      rw [added] at h
      show (o.request v).after vs = o'
      rw [request_of_ok added]
      exact ih h

theorem Distinct.nodup (distinct : o.Distinct) : o.volumes.Nodup :=
  distinct.imp fun apart same => apart.name (congrArg WorkerVolume.name same)

/-! ## The order of requests -/

/-- What comes of a sequence of requests. -/
structure Shares (o : WorkerOptions) (vs : List WorkerVolume) : Prop where
  /-- The next request is granted just if it goes with all volumes that are there. -/
  granted : ∀ v, ((o.after vs).addVolume v).isOk = true ↔
    ∀ v' ∈ (o.after vs).volumes, v.GoesWith v'
  refused : ∀ v, ((o.after vs).addVolume v).isOk = false → (o.after vs).request v = o.after vs
  /-- An action that makes the request tells how it came out and keeps what it leaves behind. -/
  recorded : ∀ {A : Type} {I : Interface} (action : A) (script : Script I) (guards : List Guard)
    (w : World I) (v : WorkerVolume),
    (Action.addVolume v).runFrom (action, o.after vs) script guards w =
      .done (((o.after vs).addVolume v).map fun _ => (), action, (o.after vs).request v) w
  distinct : (o.after vs).Distinct
  rest : ∃ volumes, o.after vs = { o with volumes }
  whole : (∃ o', vs.foldlM addVolume o = .ok o') ↔
    ∀ v ∈ vs, ∀ v' ∈ o.volumes ++ vs, v.GoesWith v'
  volumes : ∀ o', vs.foldlM addVolume o = .ok o' → o' = o.after vs ∧
    o'.volumes = o.volumes ++ (vs.filter (· ∉ o.volumes)).eraseDups
  /-- In another order the same requests are granted, and the same volumes are there. -/
  reordered : ∀ vs' o', vs.Perm vs' → vs.foldlM addVolume o = .ok o' →
    vs'.foldlM addVolume o = .ok (o.after vs') ∧ (o.after vs').volumes.Perm o'.volumes

theorem runFrom_addVolume {A : Type} {I : Interface} (action : A) (script : Script I)
    (guards : List Guard) (w : World I) (v : WorkerVolume) :
    (Action.addVolume v).runFrom (action, o) script guards w =
      .done ((o.addVolume v).map fun _ => (), action, o.request v) w := by
  rw [Action.addVolume, Recorded.runFrom_get_bind, Recorded.runFrom_bind,
    Recorded.runFrom_ofResult, pure_bind]
  cases added : o.addVolume v with
  | error fault =>
    rw [request_of_error added]
    rfl
  | ok o' =>
    rw [request_of_ok added]
    rfl

/-- Requests for volumes are granted just if they go with each other, in whatever order they are
made, and what is granted does not depend on the order either. -/
theorem requests_share (o : WorkerOptions) (distinct : o.Distinct) (vs : List WorkerVolume) :
    o.Shares vs where
  granted v := addVolume_isOk_iff distinct.after
  refused v refused := by
    cases added : (o.after vs).addVolume v with
    | error fault => exact request_of_error added
    | ok o' =>
      rw [added] at refused
      cases refused
  recorded action script guards w v := runFrom_addVolume action script guards w v
  distinct := distinct.after
  rest := after_rest distinct
  whole := by
    constructor
    · rintro ⟨o', granted⟩
      exact ((foldlM_addVolume_eq_ok_iff distinct).mp granted).1
    · intro goes
      exact ⟨_, (foldlM_addVolume_eq_ok_iff distinct).mpr ⟨goes, rfl⟩⟩
  volumes o' granted := by
    refine ⟨(after_of_foldlM granted).symm, ?_⟩
    rw [((foldlM_addVolume_eq_ok_iff distinct).mp granted).2]
    exact volumes_foldl_mount
  reordered vs' o' perm granted := by
    obtain ⟨goes, same⟩ := (foldlM_addVolume_eq_ok_iff distinct).mp granted
    have granted' : vs'.foldlM addVolume o = .ok (vs'.foldl mount o) := by
      refine (foldlM_addVolume_eq_ok_iff distinct).mpr ⟨fun v mem v' there => ?_, rfl⟩
      exact goes v (perm.mem_iff.mpr mem) v' ((perm.append_left o.volumes).mem_iff.mpr there)
    have left := after_of_foldlM granted'
    refine ⟨left ▸ granted', ?_⟩
    have nodup : (o.after vs').volumes.Nodup := distinct.after.nodup
    have nodup' : o'.volumes.Nodup := after_of_foldlM granted ▸ distinct.after.nodup
    apply (List.perm_ext_iff_of_nodup nodup nodup').mpr
    intro v
    rw [left, same, mem_foldl_mount, mem_foldl_mount, perm.mem_iff]

/-- A dump asks for the store and for its certificate, a copy asks for the store again and then for
another claim in the place of the certificate. -/
theorem requests_share_of_contested_place :
    let store := WorkerVolume.claim "dr" "dr-claim" "/dr"
    let files := WorkerVolume.secret "tls" "client" "/tls/client"
    let contested := WorkerVolume.claim "source" "data" "/tls/client"
    let o := (new "dr" "worker").mount store
    o.Distinct ∧ o.Shares [files, store, contested] ∧
      o.after [files, store, contested] = { o with volumes := [store, files] } := by
  intro store files contested o
  have distinct : o.Distinct := List.pairwise_singleton _ _
  exact ⟨distinct, requests_share o distinct _, by decide⟩

end WorkerOptions

end Recovery
