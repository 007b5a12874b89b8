import Mathlib.Data.List.Nodup
import Shipyard.Proofs.Conformance.Course

/-!
# Labels of results

A line of a report is told from the others by its label, which is the identity it is about and the
name of its probe. The names of the cases in a suite file are all different. But a run has probes of
its own for each identity, its login and its refresh, and a suite file may use their names for
cases. Labels stand for one line each exactly if no case that is run for an identity goes by one of
these two names.
-/

namespace Shipyard.Conformance

open Http (Service)

/-! ## Suite files -/

namespace Suite

/-- The names of cases without a fault are all different, and none of them was seen before. -/
lemma nodup_of_validate {seen : List String} {cases : List Case}
    (h : validate seen cases = .ok ()) :
    (cases.map Case.name).Nodup ∧ ∀ name ∈ cases.map Case.name, name ∉ seen := by
  induction cases generalizing seen with
  | nil => exact ⟨List.nodup_nil, List.forall_mem_nil _⟩
  | cons case cases ih =>
    unfold validate at h
    split at h
    · cases h
    · rename_i hfault
      obtain ⟨hnodup, hapart⟩ := ih h
      have hseen : case.name ∉ seen := by
        intro hmem
        unfold fault? at hfault
        rw [if_pos (List.contains_iff_mem.mpr hmem)] at hfault
        split at hfault <;> cases hfault
      refine ⟨List.nodup_cons.mpr ⟨fun hmem => ?_, hnodup⟩, List.forall_mem_cons.mpr ⟨hseen, ?_⟩⟩
      · exact hapart _ hmem List.mem_cons_self
      · exact fun name hname hmem => hapart name hname (List.mem_cons_of_mem _ hmem)

/-- The cases of an accepted suite are decoded from its text and have no faults. -/
lemma parse_eq_ok_iff {text origin : String} {cases : List Case} :
    parse text origin = .ok cases ↔
      Json.decodeText decode text = .ok cases ∧ validate [] cases = .ok () := by
  unfold parse
  cases Json.decodeText decode text with
  | error fault => exact ⟨nofun, fun h => nomatch h.1⟩
  | ok read =>
    change (validate [] read).bind (fun _ => .ok read) = .ok cases ↔ _
    constructor
    · intro h
      cases hvalid : validate [] read with
      | error failure =>
        rw [hvalid] at h
        cases h
      | ok _ =>
        rw [hvalid] at h
        obtain rfl := Except.ok.inj h
        exact ⟨rfl, hvalid⟩
    · rintro ⟨hread, hvalid⟩
      obtain rfl := Except.ok.inj hread
      rw [hvalid]
      rfl

/-- The names of the cases in a suite file are all different. -/
lemma nodup_of_parse {text origin : String} {cases : List Case}
    (h : parse text origin = .ok cases) : (cases.map Case.name).Nodup :=
  (nodup_of_validate (parse_eq_ok_iff.mp h).2).1

/-- A text whose suite is known is accepted. -/
lemma parse_of_toOption {text origin : String} {cases : List Case}
    (h : (parse text origin).toOption = some cases) : parse text origin = .ok cases := by
  cases hread : parse text origin with
  | ok read =>
    rw [hread] at h
    obtain rfl := Option.some.inj h
    rfl
  | error failure =>
    rw [hread] at h
    cases h

end Suite

/-! ## Labels -/

/-- The names of the probes that are made for each identity. -/
def ownNames (cases : List Case) : List String :=
  loginProbe :: ((bearerCases cases).map Case.name ++ [refreshProbe])

/-- The probes of an identity are labelled with it and their names. -/
lemma map_label_ofIdentity (cases : List Case) (identity : Identity) :
    (Probe.ofIdentity cases identity).map Probe.label =
      (ownNames cases).map fun name => (some identity.name, name) := by
  unfold Probe.ofIdentity Probe.behindLogin ownNames
  simp only [List.map_cons, List.map_append, List.map_map, List.map_nil]
  rfl

/-- The names of the probes of an identity are all different exactly if no case has the name of its
login or its refresh. -/
lemma nodup_ownNames_iff {cases : List Case} (hcases : (cases.map Case.name).Nodup) :
    (ownNames cases).Nodup ↔
      ∀ case ∈ bearerCases cases, case.name ≠ loginProbe ∧ case.name ≠ refreshProbe := by
  have hbearer : ((bearerCases cases).map Case.name).Nodup :=
    hcases.sublist (List.filter_sublist.map _)
  have hprobes : loginProbe ≠ refreshProbe := by decide
  unfold ownNames
  rw [List.nodup_cons, List.nodup_append]
  constructor
  · rintro ⟨hlogin, -, -, hrefresh⟩ case hcase
    have hname := List.mem_map_of_mem (f := Case.name) hcase
    refine ⟨fun heq => ?_, hrefresh _ hname _ List.mem_cons_self⟩
    exact hlogin (List.mem_append_left _ (heq ▸ hname))
  · intro h
    refine ⟨fun hmem => ?_, hbearer, List.nodup_singleton _, ?_⟩
    · rcases List.mem_append.mp hmem with hname | hname
      · obtain ⟨case, hcase, heq⟩ := List.mem_map.mp hname
        exact (h case hcase).1 heq
      · exact hprobes (List.mem_singleton.mp hname)
    · intro name hname other hother
      obtain ⟨case, hcase, rfl⟩ := List.mem_map.mp hname
      rw [List.mem_singleton.mp hother]
      exact (h case hcase).2

/-- The labels of identities with different names are all different exactly if there is no identity,
or those of each single one are. -/
lemma nodup_identityLabels_iff {cases : List Case} {identities : List Identity}
    (hidentities : (identities.map Identity.name).Nodup) :
    ((identities.flatMap (Probe.ofIdentity cases)).map Probe.label).Nodup ↔
      identities = [] ∨ (ownNames cases).Nodup := by
  rw [List.map_flatMap, List.nodup_flatMap]
  simp only [map_label_ofIdentity]
  constructor
  · rintro ⟨heach, -⟩
    cases identities with
    | nil => exact .inl rfl
    | cons identity identities =>
      exact .inr (List.Nodup.of_map _ (heach identity List.mem_cons_self))
  · rintro (rfl | hnames)
    · exact ⟨List.forall_mem_nil _, .nil⟩
    · refine ⟨fun identity _ => ?_, (List.pairwise_map.mp hidentities).imp fun hname => ?_⟩
      · exact hnames.map fun _ _ heq => (Prod.mk.inj heq).2
      · -- labels of two identities differ in the identity
        intro label hlabel hlabel'
        obtain ⟨_, -, rfl⟩ := List.mem_map.mp hlabel
        obtain ⟨_, -, heq⟩ := List.mem_map.mp hlabel'
        exact hname (Option.some.inj (Prod.mk.inj heq).1).symm

/-- The labels of the probes of a run are all different exactly if there is no identity, or those of
each single one are. -/
lemma nodup_labels_iff {cases : List Case} (hcases : (cases.map Case.name).Nodup)
    {identities : List Identity} (hidentities : (identities.map Identity.name).Nodup) :
    ((Probe.all cases identities).map Probe.label).Nodup ↔
      identities = [] ∨ (ownNames cases).Nodup := by
  have hopen : (((openCases cases).map (Probe.ofCase none)).map Probe.label).Nodup := by
    have hnames : ((openCases cases).map Case.name).Nodup :=
      hcases.sublist (List.filter_sublist.map _)
    rw [List.map_map]
    exact List.Nodup.of_map Prod.snd (by rwa [List.map_map])
  unfold Probe.all
  rw [List.map_append, List.nodup_append, nodup_identityLabels_iff hidentities]
  refine ⟨fun h => h.2.1, fun h => ⟨hopen, h, ?_⟩⟩
  -- an open case is about nobody in particular
  intro label hlabel other hother heq
  obtain ⟨probe, hprobe, rfl⟩ := List.mem_map.mp hlabel
  obtain ⟨case, -, rfl⟩ := List.mem_map.mp hprobe
  rw [List.map_flatMap] at hother
  obtain ⟨identity, -, hother⟩ := List.mem_flatMap.mp hother
  rw [map_label_ofIdentity] at hother
  obtain ⟨_, -, rfl⟩ := List.mem_map.mp hother
  cases heq

/-- The lines of a report bear the labels of the probes of the run. -/
lemma run_labels {σ : Type} (service : Service (StateM σ)) (api : Endpoints) (cases : List Case)
    (identities : List Identity) (s : σ) :
    (run service api cases identities s).1.entries.map Entry.label =
      (Probe.all cases identities).map Probe.label := by
  obtain ⟨opening, parts, hbehind, hcourse⟩ := exists_course service api cases identities s
  rw [hbehind.report, Report.ofEntries_entries]
  exact (Chain.standFor none hcourse.opened).append (standFor_of_served hcourse.served)

/-- Take a suite from a file and identities with different names. However the service answers, no
two lines of the report of their run have the same label exactly if there is no identity, or no case
that is run for identities has the name of their login or their refresh. -/
theorem labels_apart_iff {text origin : String} {cases : List Case}
    (hcases : Suite.parse text origin = .ok cases) {identities : List Identity}
    (hidentities : (identities.map Identity.name).Nodup) {σ : Type} (service : Service (StateM σ))
    (api : Endpoints) (s : σ) :
    ((run service api cases identities s).1.entries.map Entry.label).Nodup ↔
      identities = [] ∨
        ∀ case ∈ bearerCases cases, case.name ≠ loginProbe ∧ case.name ≠ refreshProbe := by
  have hnodup := Suite.nodup_of_parse hcases
  rw [run_labels, nodup_labels_iff hnodup hidentities, nodup_ownNames_iff hnodup]

/-- A suite file with one case, which is called like the login of an identity. -/
def loginText (access : String) : String :=
  "[\x7b\"name\":\"login\",\"path\":\"/a\",\"auth\":\"" ++ access ++ "\"," ++
    "\"expect\":\x7b\"type\":\"status\",\"status\":200\x7d\x7d]"

/-- The case in this file. -/
def loginCase (access : Access) : Case :=
  { name := loginProbe, path := "/a", expect := .status 200, access }

/-- An open case may be called like the login of an identity. -/
theorem labels_apart_with_open_login :
    let ann : Identity := ⟨"ann", .email, "ann@svc", "first"⟩
    let bob : Identity := ⟨"bob", .phone, "555", "second"⟩
    let api : Endpoints := ⟨"http://svc", "http://svc/gotrue", "/health", "OK", 0, 1⟩
    let service : Service (StateM Unit) := ⟨fun _ => pure (.ok ⟨404, ""⟩)⟩
    Suite.parse (loginText "none") "suite.json" = .ok [loginCase .everyone] ∧
      ([ann, bob].map Identity.name).Nodup ∧
      ((run service api [loginCase .everyone] [ann, bob] ()).1.entries.map Entry.label).Nodup := by
  intro ann bob api service
  have hparse : Suite.parse (loginText "none") "suite.json" = .ok [loginCase .everyone] :=
    Suite.parse_of_toOption (by decide +kernel)
  have hnames : ([ann, bob].map Identity.name).Nodup := by decide
  refine ⟨hparse, hnames, (labels_apart_iff hparse hnames service api ()).mpr (.inr ?_)⟩
  exact List.forall_mem_nil _

/-- A suite is accepted in which a case that is run for identities is called like their login. The
report of an identity then has two lines with one label. -/
theorem labels_clash_with_own_login :
    let ann : Identity := ⟨"ann", .email, "ann@svc", "first"⟩
    let api : Endpoints := ⟨"http://svc", "http://svc/gotrue", "/health", "OK", 0, 1⟩
    let service : Service (StateM Unit) := ⟨fun _ => pure (.ok ⟨404, ""⟩)⟩
    Suite.parse (loginText "bearer") "suite.json" = .ok [loginCase .bearer] ∧
      (run service api [loginCase .bearer] [ann] ()).1.entries.map Entry.label =
        [(some "ann", "login"), (some "ann", "login"), (some "ann", "refresh")] := by
  intro ann api service
  exact ⟨Suite.parse_of_toOption (by decide +kernel), run_labels service api _ _ ()⟩

end Shipyard.Conformance
