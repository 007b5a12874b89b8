import Shipyard.Proofs.Conformance.Course
import Shipyard.Proofs.Template.Cut

/-!
# Paths of cases

The path of a case is a template. Which names a case needs and what its path becomes are both read
off the one cut of the path. Hence a case for which nothing is missing is always asked: its path
cannot turn out to refer to another name when it is filled.
-/

namespace Shipyard.Conformance

open Http (Service)
open Template (Filled IsCut Segment placeholders render)

/-- A template is rendered in one pass. It has exactly one cut into characters and placeholders from
left to right. The names that it refers to are those of the placeholders of the cut, each listed
once, in the order of their first appearance. It is not rendered exactly if one of these names has
no value, and the first such name is reported. Otherwise it is rendered to the cut filled: each
character stays, and for each placeholder the value of its name is put in as it is.

So the path of a case for which nothing is missing is rendered, and the case is asked with it. -/
theorem path_is_rendered_in_one_pass (template : String) (value : String → Option String) :
    ∃ pieces, (∀ others, IsCut template.toList others ↔ others = pieces) ∧
      (∀ name, name ∈ placeholders template ↔
        ∃ p, .placeholder p ∈ pieces ∧ String.ofList p.name = name) ∧
      ((placeholders template).Pairwise fun a b =>
        (pieces.filterMap Segment.name?).idxOf a < (pieces.filterMap Segment.name?).idxOf b) ∧
      (∀ name, render template value = .error name ↔
        ∃ front back, placeholders template = front ++ name :: back ∧
          (∀ other ∈ front, (value other).isSome) ∧ value name = none) ∧
      (∀ text, render template value = .ok text ↔ Filled value pieces text.toList) ∧
      (∀ (case : Case) (values : Values), case.path = template →
        values.missing case.requires = [] →
          ∃ path, Filled (Dictionary.get? values) pieces path.toList ∧
            ∀ {m : Type → Type} [Monad m] (service : Service m) (api : Endpoints)
              (identity token : Option String),
              runCase service api identity token values case = do
                let exchange ← service.exchange (case.request api path token)
                return (case.step identity exchange, values.learn (case.learned exchange))) := by
  refine ⟨Template.segments template, fun others => Template.isCut_iff, fun name =>
    Template.mem_placeholders_iff, Template.pairwise_eraseDups _, fun name =>
    Template.render_eq_error_iff, fun text => Template.render_eq_ok_iff, ?_⟩
  rintro case values rfl hmissing
  obtain ⟨path, hpath⟩ : ∃ path, render case.path (Dictionary.get? values) = .ok path :=
    ⟨_, Template.render_of_known (Values.missing_eq_nil_iff.mp hmissing)⟩
  refine ⟨path, Template.render_eq_ok_iff.mp hpath, fun service api identity token => ?_⟩
  unfold runCase
  rw [hmissing]
  dsimp only
  rw [hpath]

/-- A case is asked whose value has double braces. The value is put into the path as it is, although
it could be a placeholder, and braces without a name between them stay. -/
theorem path_keeps_braces_of_value :
    let template := "/\x7b\x7b a \x7d\x7d/\x7b\x7ba\x7d\x7d/\x7b\x7b-\x7d\x7d"
    let path := "/\x7b\x7bb\x7d\x7d/\x7b\x7bb\x7d\x7d/\x7b\x7b-\x7d\x7d"
    let case : Case := { name := "item", path := template, expect := .status 200 }
    let values : Values := [("a", "\x7b\x7bb\x7d\x7d")]
    let api : Endpoints := ⟨"http://svc", "http://svc/gotrue", "/health", "OK", 0, 1⟩
    let service : Service (StateM Unit) := ⟨fun _ => pure (.ok ⟨200, ""⟩)⟩
    case.path = template ∧ values.missing case.requires = [] ∧
      (runCase service api none none values case ()).1.1.exchange.map Http.Exchange.request =
        some (case.request api path none) := by
  intro template path case values api service
  have hmissing : values.missing case.requires = [] := by decide +kernel
  have hpath : render template (Dictionary.get? values) = .ok path := by decide +kernel
  obtain ⟨pieces, -, -, -, -, hrender, hasked⟩ :=
    path_is_rendered_in_one_pass template (Dictionary.get? values)
  obtain ⟨filled, hfilled, hrun⟩ := hasked case values rfl hmissing
  have hrendered : render template (Dictionary.get? values) = .ok filled :=
    (hrender filled).mpr hfilled
  rw [hpath] at hrendered
  obtain rfl := Except.ok.inj hrendered
  refine ⟨rfl, hmissing, ?_⟩
  rw [hrun service api none none]
  rfl

end Shipyard.Conformance
