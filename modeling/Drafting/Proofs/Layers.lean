import Mathlib
import Drafting.Proofs.Connection
import Drafting.Proofs.Leftovers
import Drafting.Proofs.Library

/-!
# Layers are added once, and entities put on the layers the table has

The application keeps a table of layer names.  Making a layer (`Link.ensureLayer`) scans
the table for a name equal to the one asked for once both are lowered, and adds the layer
only when the scan finds none; the scan stops with a fault at the first name that is no
text, and so does it when the name asked for is no text.  Writing an entity's properties
(`Link.applyProperties`) makes its layer first, ignores whether that worked, and then puts
the entity on the layer.

So a layer is added only when no name of the table is the same as it, and a table whose
names are distinct stays so.  But an entity is not put only on layers the table has: when
the application refuses to add layers, or the scan stops with its fault, the entity is put
on the layer anyway.  `Layers.assignable` names these cases, and `Layers.step` checks one
granted request against the table: an addition must be of a new name, and an entity may go
only on an assignable layer.  `Layers.replay` checks a whole journal, and
`Layers.Reaches` relates two views of the station, the journal and the table, when the
requests between them pass the check.

Each drawing operation and the making of a layer keep `Reaches`, from a connection whose
model space comes with its document; from that, every run of direct calls of them, under
the refusals of the application, grants requests that replay on the table it started from.
That condition on the connection, `Link.Coherent`, holds of every connection a session
reaches by direct calls of the connection's operations (`Session.reached_coherent`).
-/

namespace Drafting

open Std.Do

set_option mvcgen.warning false

/-- Whether a value is a text. -/
def Value.isText : Value → Bool
  | .str _ => true
  | _ => false

/-- The layer a request adds to the table, if it adds one. -/
def Request.addedLayer : Request → Option Value
  | .addLayer n => some n
  | _ => none

/-- The application's record of a request adds the layer the request adds. -/
theorem Host.record_layers (h : Host) (r : Request) :
    (h.record r).layers = h.layers ++ r.addedLayer.toList := by
  cases r <;> simp [Host.record, Request.addedLayer] <;> split <;> simp

theorem Host.record_refusing (h : Host) (r : Request) : (h.record r).refusing = h.refusing := by
  cases r <;> simp [Host.record] <;> split <;> simp

/-- The application refuses to add a layer when it is told to refuse additions of layers. -/
theorem Host.refuses_addLayer (h : Host) (n : Value) :
    h.refuses (.addLayer n) = h.refusing.contains "AddLayer" := rfl

/-- The application refuses a request exactly when it is told to refuse its name. -/
theorem Host.refuses_of_grant_error {h : Host} {r : Request} {f : Fault}
    (hgrant : h.grant r = .error f) : h.refuses r = true := by
  unfold Host.grant at hgrant
  unfold Host.refuses
  split at hgrant
  · split at hgrant <;> simp_all
  · simp at hgrant

namespace Layers

/-- Two layer names the connection takes for one layer: both texts, equal once lowered. -/
def same : Value → Value → Bool
  | .str a, .str b => Text.lower a == Text.lower b
  | _, _ => false

/-- A table no two names of which the connection takes for one layer. -/
def Distinct (T : List Value) : Prop := T.Pairwise fun a b => same a b = false

/-- Whether an entity may be put on layer `n` while the table is `T` and the application
refuses the requests named in `rf`: the table has the layer, or making it could not add it,
because `n` is no text, the table holds a name that is no text, or the application refuses
to add layers. -/
def assignable (rf : List String) (T : List Value) (n : Value) : Bool :=
  T.any (same · n) || !n.isText || T.any (!·.isText) || rf.contains "AddLayer"

/-- Applies one granted request to the table as the application does, and checks it: a
layer is added only when every name of the table is a text not the same as it, and an
entity is put only on an assignable layer; nothing at a request that breaks this. -/
def step (rf : List String) (T : List Value) : Request → Option (List Value)
  | .addLayer n => if T.all (fun l => l.isText && !same l n) then some (T ++ [n]) else none
  | .set (.entity _) .layer n => if assignable rf T n then some T else none
  | _ => some T

/-- Replays granted requests on the table: the table after them, or nothing at the first
request that breaks the rules of `step`. -/
def replay (rf : List String) (T : List Value) (rs : List Request) : Option (List Value) :=
  rs.foldlM (step rf) T

theorem same_self {n : Value} (hn : n.isText = true) : same n n = true := by
  cases n <;> simp_all [same, Value.isText]

/-- A layer just added, or one that is no text, is assignable. -/
theorem assignable_append_self (rf : List String) (T : List Value) (n : Value) :
    assignable rf (T ++ [n]) n = true := by
  cases hn : n.isText
  · simp [assignable, hn]
  · simp [assignable, same_self hn]

theorem step_table {rf : List String} {T T' : List Value} {r : Request}
    (h : step rf T r = some T') : T' = T ++ r.addedLayer.toList := by
  unfold step at h
  split at h
  · split at h <;> simp_all [Request.addedLayer]
  · split at h <;> simp_all [Request.addedLayer]
  · rename_i hnot _
    cases r <;> simp_all [Request.addedLayer]

/-- A checked addition keeps the names of the table distinct. -/
theorem step_distinct {rf : List String} {T T' : List Value} {r : Request}
    (hT : Distinct T) (h : step rf T r = some T') : Distinct T' := by
  unfold step at h
  split at h
  · split at h
    · rename_i n hfresh
      cases h
      refine List.pairwise_append.mpr ⟨hT, List.pairwise_singleton _ _, ?_⟩
      intro l hl b hb
      rw [List.mem_singleton] at hb
      subst hb
      have hfresh_l := List.all_eq_true.mp hfresh l hl
      simp only [Bool.and_eq_true, Bool.not_eq_true'] at hfresh_l
      exact hfresh_l.2
    · simp at h
  · split at h <;> simp_all
  · simp_all

theorem replay_nil (rf : List String) (T : List Value) : replay rf T [] = some T := rfl

theorem replay_append (rf : List String) (T : List Value) (rs qs : List Request) :
    replay rf T (rs ++ qs) = (replay rf T rs).bind fun T' => replay rf T' qs := by
  simp [replay, List.foldlM_append]

theorem replay_snoc {rf : List String} {T T' T'' : List Value} {rs : List Request}
    {r : Request} (h : replay rf T rs = some T') (hstep : step rf T' r = some T'') :
    replay rf T (rs ++ [r]) = some T'' := by
  rw [replay_append, h]
  simpa [replay] using hstep

/-- A replay ends on the table it started from and the layers the requests added. -/
theorem replay_table {rf : List String} {T T' : List Value} {rs : List Request}
    (h : replay rf T rs = some T') : T' = T ++ rs.filterMap Request.addedLayer := by
  induction rs generalizing T with
  | nil => simpa [replay] using h.symm
  | cons r rs ih =>
    simp only [replay, List.foldlM_cons] at h
    obtain ⟨T₁, hstep, hrest⟩ := Option.bind_eq_some_iff.mp h
    rw [ih hrest, step_table hstep, List.filterMap_cons]
    cases r.addedLayer <;> simp

/-- A replay from a table of distinct names ends on one; by induction on the requests. -/
theorem replay_distinct {rf : List String} {T T' : List Value} {rs : List Request}
    (hT : Distinct T) (h : replay rf T rs = some T') : Distinct T' := by
  induction rs generalizing T with
  | nil => simpa [replay] using (Option.some.inj h) ▸ hT
  | cons r rs ih =>
    simp only [replay, List.foldlM_cons] at h
    obtain ⟨T₁, hstep, hrest⟩ := Option.bind_eq_some_iff.mp h
    exact ih (step_distinct hT hstep) hrest

/-- A replay checks each request against the table the requests before it leave. -/
theorem replay_step_of_eq_append {rf : List String} {T T' : List Value}
    {pre post : List Request} {r : Request} (h : replay rf T (pre ++ r :: post) = some T') :
    (step rf (T ++ pre.filterMap Request.addedLayer) r).isSome = true := by
  rw [replay_append] at h
  obtain ⟨T₁, hpre, hrest⟩ := Option.bind_eq_some_iff.mp h
  rw [← replay_table hpre]
  simp only [replay, List.foldlM_cons] at hrest
  obtain ⟨T₂, hstep, -⟩ := Option.bind_eq_some_iff.mp hrest
  simp [hstep]

/-- From one view of the layers, the journal and the table, to another: the journal of the
second extends that of the first by requests that replay from the first table to the
second. -/
def Reaches (rf : List String) (x y : List Request × List Value) : Prop :=
  ∃ rs, y.1 = x.1 ++ rs ∧ replay rf x.2 rs = some y.2

theorem Reaches.refl (rf : List String) (x : List Request × List Value) : Reaches rf x x :=
  ⟨[], by simp, rfl⟩

/-- One checked request more. -/
theorem Reaches.step {rf : List String} {x : List Request × List Value} {J : List Request}
    {T T' : List Value} {r : Request} (h : Reaches rf x (J, T)) (hstep : step rf T r = some T') :
    Reaches rf x (J ++ [r], T') := by
  obtain ⟨rs, hJ, hreplay⟩ := h
  simp only at hJ hreplay
  exact ⟨rs ++ [r], by rw [hJ, List.append_assoc], replay_snoc hreplay hstep⟩

end Layers

open Layers

/-- What the station shows of its layers: the journal of granted requests and the table. -/
def Station.layerView (σ : Station) : List Request × List Value :=
  (σ.host.journal.toList, σ.host.layers)

/-- The station keeps the refusals `rf` and the connection `l`, and its layers are reached
from the view `x`. -/
def Layers.Kept (rf : List String) (l : Link) (x : List Request × List Value) (σ : Station) :
    Prop :=
  σ.host.refusing = rf ∧ σ.service.link = l ∧ Reaches rf x σ.layerView

/-- A granted request the check lets through keeps the layers reached. -/
theorem Layers.Kept.granted {rf : List String} {l : Link} {x : List Request × List Value}
    {σ : Station} {h : Host} {r : Request} {T' : List Value} (hkept : Kept rf l x σ)
    (hgrant : σ.host.grant r = .ok h) (hstep : step rf σ.host.layers r = some T') :
    Kept rf l x { σ with host := h } := by
  obtain ⟨hrf, hl, hreach⟩ := hkept
  have hrecord := Host.grant_eq_record hgrant
  refine ⟨by rw [hrecord, Host.record_refusing, hrf], hl, ?_⟩
  have hlayers : h.layers = T' := by rw [hrecord, Host.record_layers, step_table hstep]
  have hview : ({ σ with host := h } : Station).layerView = (σ.layerView.1 ++ [r], T') := by
    simp [Station.layerView, Host.grant_journal hgrant, hlayers]
  rw [hview]
  exact hreach.step hstep

namespace Op

variable (rf : List String) (l : Link) (x : List Request × List Value)

/-- A request the check lets through keeps the layers reached and adds its layer, when
granted; a refused one changes nothing, and is one the application refuses. -/
theorem request_layers (σ₀ : Station) (r : Request) (hkept : Kept rf l x σ₀)
    (hstep : (step rf σ₀.host.layers r).isSome = true) :
    ⦃fun σ => ⌜σ = σ₀⌝⦄ request r
    ⦃post⟨fun _ σ => ⌜Kept rf l x σ ∧ σ.host.layers = σ₀.host.layers ++ r.addedLayer.toList⌝,
      fun _ σ => ⌜σ = σ₀ ∧ σ₀.host.refuses r = true⌝⟩⦄ := by
  unfold request
  mvcgen
  · rename_i σ hσ h hgrant
    subst hσ
    obtain ⟨T', hstep'⟩ := Option.isSome_iff_exists.mp hstep
    refine ⟨hkept.granted hgrant hstep', ?_⟩
    rw [Host.grant_eq_record hgrant, Host.record_layers]
  · rename_i σ hσ f hgrant
    subst hσ
    exact ⟨rfl, Host.refuses_of_grant_error hgrant⟩

theorem addEntity_layers (r : Request) (hadds : r.addsEntity = true) :
    ⦃fun σ => ⌜Kept rf l x σ⌝⦄ addEntity r
    ⦃post⟨fun _ σ => ⌜Kept rf l x σ⌝, fun _ σ => ⌜Kept rf l x σ⌝⟩⦄ := by
  have hrequest := request_layers rf l x
  unfold addEntity
  mvcgen [hrequest]
  all_goals clear hrequest
  all_goals cases r <;> simp_all [step, Request.addsEntity]

end Op

namespace Link

/-- One name of the table scanned: two texts are compared once lowered, and any other name
stops the scan with a fault. -/
theorem hasLayer_cons (name l : Value) (T : List Value) :
    hasLayer name (l :: T) = match l, name with
      | .str a, .str b => if Text.lower a == Text.lower b then .ok true else hasLayer name T
      | .str _, v => .error (.noAttribute v.kind "lower")
      | v, _ => .error (.noAttribute v.kind "lower") := by
  cases l <;> cases name <;> simp [hasLayer, Value.textFor] <;> rfl

/-- The scan finds a layer only when the table has one the same as it. -/
theorem hasLayer_eq_true {name : Value} {T : List Value} (h : hasLayer name T = .ok true) :
    T.any (same · name) = true := by
  induction T with
  | nil => simp [hasLayer] at h
  | cons l T ih =>
    rw [hasLayer_cons] at h
    split at h
    · split at h
      · simp_all [same]
      · simp [ih h]
    · simp at h
    · simp at h

/-- The scan misses a layer only when every name of the table is a text not the same as it. -/
theorem hasLayer_eq_false {name : Value} {T : List Value} (h : hasLayer name T = .ok false) :
    T.all (fun l => l.isText && !same l name) = true := by
  induction T with
  | nil => rfl
  | cons l T ih =>
    rw [hasLayer_cons] at h
    split at h
    · split at h
      · simp at h
      · rename_i hne
        simp_all [same, Value.isText]
    · simp at h
    · simp at h

/-- The scan stops with a fault only when the name asked for is no text or the table holds
a name that is no text. -/
theorem hasLayer_eq_error {name : Value} {T : List Value} {f : Fault}
    (h : hasLayer name T = .error f) : name.isText = false ∨ T.any (!·.isText) = true := by
  induction T with
  | nil => simp [hasLayer] at h
  | cons l T ih =>
    rw [hasLayer_cons] at h
    split at h
    · split at h
      · simp at h
      · rcases ih h with hname | htable
        · exact .inl hname
        · exact .inr (by simp_all)
    · rename_i hnot
      left
      cases name <;> simp_all [Value.isText]
    · rename_i hnot
      right
      cases l <;> simp_all [Value.isText]


/-- What the scan answers, read as the check: a found layer and a fault leave the layer
assignable, and a miss lets the addition through. -/
theorem assignable_of_hasLayer_true {rf : List String} {T : List Value} {name : Value}
    (h : hasLayer name T = .ok true) : assignable rf T name = true := by
  simp [assignable, hasLayer_eq_true h]

theorem assignable_of_hasLayer_error {rf : List String} {T : List Value} {name : Value}
    {f : Fault} (h : hasLayer name T = .error f) : assignable rf T name = true := by
  rcases hasLayer_eq_error h with hname | htable
  · simp [assignable, hname]
  · simp [assignable, htable]

/-- A layer is assignable while the application refuses to add layers. -/
theorem assignable_of_refused {rf : List String} {T : List Value} {n : Value}
    (hrefused : "AddLayer" ∈ rf) : assignable rf T n = true := by
  simp [assignable, hrefused]

theorem step_addLayer_of_hasLayer_false {rf : List String} {T : List Value} {name : Value}
    (h : hasLayer name T = .ok false) : (step rf T (.addLayer name)).isSome = true := by
  simp [step, hasLayer_eq_false h]

variable (rf : List String) (l : Link) (x : List Request × List Value)

/-- Making a layer keeps the layers reached and, when the connection holds a document,
leaves the layer assignable: found in the table, added to it, or one the connection could
not add. -/
theorem ensureLayer_layers (name colour : Value) :
    ⦃fun σ => ⌜Kept rf l x σ⌝⦄ ensureLayer name colour
    ⦃post⟨fun _ σ => ⌜Kept rf l x σ ∧ (l.doc = true → assignable rf σ.host.layers name = true)⌝,
      fun _ _ => ⌜False⌝⟩⦄ := by
  have hrequest := Op.request_layers rf l x
  unfold ensureLayer attempt
  mvcgen [Op.link_answers, hrequest]
  all_goals clear hrequest
  all_goals subst_vars
  -- every path keeps the station, each request being one the check lets through; what is
  -- left is why the layer is assignable on each path taken with a document
  all_goals try simp_all [Kept, Request.addedLayer, step_addLayer_of_hasLayer_false]
  · -- the scan found the layer in the table
    rename_i hfound
    exact assignable_of_hasLayer_true hfound.2
  · -- the layer was added, and then its colour
    exact assignable_append_self rf _ name
  · -- the layer was added, and its colour refused
    exact assignable_append_self rf _ name
  · -- the application refused the addition, as it refuses every addition of a layer
    rename_i hkept _ _ _ _ hrefused
    have hcontains : rf.contains "AddLayer" = true := by
      rw [← hkept.1, ← Host.refuses_addLayer _ name]
      exact hrefused.2
    exact assignable_of_refused (by simpa using hcontains)
  · -- the scan stopped with a fault
    rename_i hfault
    exact assignable_of_hasLayer_error hfault.2


/-- Writing an entity's properties, while the connection holds a document, keeps the layers
reached: the entity is put on its layer only after making the layer, which leaves it
assignable. -/
theorem applyProperties_layers (hdoc : l.doc = true) (entity : Nat)
    (layer colour lineweight : Value) :
    ⦃fun σ => ⌜Kept rf l x σ⌝⦄ applyProperties entity layer colour lineweight
    ⦃post⟨fun _ σ => ⌜Kept rf l x σ⌝, fun _ _ => ⌜False⌝⟩⦄ := by
  have hrequest := Op.request_layers rf l x
  have hlayer := ensureLayer_layers rf l x
  unfold applyProperties attempt
  mvcgen [hrequest, hlayer]
  all_goals clear hrequest hlayer
  all_goals subst_vars
  all_goals simp_all [Kept, step]

/-- Writing the properties of a plain value makes its layer, when it names one, and writes
nothing else. -/
theorem applyToValue_layers (layer : Value) :
    ⦃fun σ => ⌜Kept rf l x σ⌝⦄ applyToValue layer
    ⦃post⟨fun _ σ => ⌜Kept rf l x σ⌝, fun _ _ => ⌜False⌝⟩⦄ := by
  have hlayer := ensureLayer_layers rf l x
  unfold applyToValue
  mvcgen [hlayer]
  all_goals simp_all

theorem refresh_layers :
    ⦃fun σ => ⌜Kept rf l x σ⌝⦄ refresh
    ⦃post⟨fun _ σ => ⌜Kept rf l x σ⌝, fun _ _ => ⌜False⌝⟩⦄ := by
  have hrequest := Op.request_layers rf l x
  unfold refresh attempt
  mvcgen [Op.link_answers, hrequest]
  all_goals clear hrequest
  all_goals simp_all [Kept, step]

section Drawing

/-! The drawing operations add their entities and write their properties; they reach the
properties only while the connection holds the model space, and so, on a connection whose
model space comes with its document, only while it holds the document. -/

variable (hcoherent : l.modelSpace = true → l.doc = true)
include hcoherent

theorem drawLine_layers (start finish layer colour lineweight : Value) :
    ⦃fun σ => ⌜Kept rf l x σ⌝⦄ drawLine start finish layer colour lineweight
    ⦃post⟨fun _ σ => ⌜Kept rf l x σ⌝, fun _ σ => ⌜Kept rf l x σ⌝⟩⦄ := by
  have hadd := Op.addEntity_layers rf l x
  have hprops := applyProperties_layers rf l x
  have hrefresh := refresh_layers rf l x
  unfold drawLine drawing
  mvcgen [Op.link_answers, hadd, hprops, hrefresh]
  all_goals clear hadd hprops hrefresh
  all_goals simp_all [Kept]

theorem drawCircle_layers (center radius layer colour lineweight : Value) :
    ⦃fun σ => ⌜Kept rf l x σ⌝⦄ drawCircle center radius layer colour lineweight
    ⦃post⟨fun _ σ => ⌜Kept rf l x σ⌝, fun _ σ => ⌜Kept rf l x σ⌝⟩⦄ := by
  have hadd := Op.addEntity_layers rf l x
  have hprops := applyProperties_layers rf l x
  have hrefresh := refresh_layers rf l x
  unfold drawCircle drawing
  mvcgen [Op.link_answers, hadd, hprops, hrefresh]
  all_goals clear hadd hprops hrefresh
  all_goals simp_all [Kept]

theorem drawArc_layers (center radius startAngle endAngle layer colour lineweight : Value) :
    ⦃fun σ => ⌜Kept rf l x σ⌝⦄ drawArc center radius startAngle endAngle layer colour lineweight
    ⦃post⟨fun _ σ => ⌜Kept rf l x σ⌝, fun _ σ => ⌜Kept rf l x σ⌝⟩⦄ := by
  have hadd := Op.addEntity_layers rf l x
  have hprops := applyProperties_layers rf l x
  have hrefresh := refresh_layers rf l x
  unfold drawArc drawing
  mvcgen [Op.link_answers, hadd, hprops, hrefresh]
  all_goals clear hadd hprops hrefresh
  all_goals simp_all [Kept]

theorem drawEllipse_layers (center major minor rotation layer colour lineweight : Value) :
    ⦃fun σ => ⌜Kept rf l x σ⌝⦄ drawEllipse center major minor rotation layer colour lineweight
    ⦃post⟨fun _ σ => ⌜Kept rf l x σ⌝, fun _ σ => ⌜Kept rf l x σ⌝⟩⦄ := by
  have hadd := Op.addEntity_layers rf l x
  have hprops := applyProperties_layers rf l x
  have hrefresh := refresh_layers rf l x
  unfold drawEllipse drawing
  mvcgen [Op.link_answers, hadd, hprops, hrefresh]
  all_goals clear hadd hprops hrefresh
  all_goals simp_all [Kept]

theorem drawText_layers (position content height rotation layer colour : Value) :
    ⦃fun σ => ⌜Kept rf l x σ⌝⦄ drawText position content height rotation layer colour
    ⦃post⟨fun _ σ => ⌜Kept rf l x σ⌝, fun _ σ => ⌜Kept rf l x σ⌝⟩⦄ := by
  have hrequest := Op.request_layers rf l x
  have hadd := Op.addEntity_layers rf l x
  have hprops := applyProperties_layers rf l x
  have hrefresh := refresh_layers rf l x
  unfold drawText drawing
  mvcgen [Op.link_answers, hrequest, hadd, hprops, hrefresh]
  all_goals clear hrequest hadd hprops hrefresh
  all_goals simp_all [Kept]

theorem addDimension_layers (start finish label layer colour : Value) :
    ⦃fun σ => ⌜Kept rf l x σ⌝⦄ addDimension start finish label layer colour
    ⦃post⟨fun _ σ => ⌜Kept rf l x σ⌝, fun _ σ => ⌜Kept rf l x σ⌝⟩⦄ := by
  have hadd := Op.addEntity_layers rf l x
  have hprops := applyProperties_layers rf l x
  have hrefresh := refresh_layers rf l x
  unfold addDimension drawing
  mvcgen [Op.link_answers, hadd, hprops, hrefresh]
  all_goals clear hadd hprops hrefresh
  all_goals simp_all [Kept]

theorem drawPolyline_layers (points closed layer colour lineweight : Value) :
    ⦃fun σ => ⌜Kept rf l x σ⌝⦄ drawPolyline points closed layer colour lineweight
    ⦃post⟨fun _ σ => ⌜Kept rf l x σ⌝, fun _ σ => ⌜Kept rf l x σ⌝⟩⦄ := by
  have hrequest := Op.request_layers rf l x
  have hadd := Op.addEntity_layers rf l x
  have hprops := applyProperties_layers rf l x
  have hrefresh := refresh_layers rf l x
  unfold drawPolyline
  mvcgen [Op.link_answers, hrequest, hadd, hprops, hrefresh]
  all_goals clear hrequest hadd hprops hrefresh
  all_goals simp_all [Kept]

theorem drawRectangle_layers (corner1 corner2 layer colour lineweight : Value) :
    ⦃fun σ => ⌜Kept rf l x σ⌝⦄ drawRectangle corner1 corner2 layer colour lineweight
    ⦃post⟨fun _ σ => ⌜Kept rf l x σ⌝, fun _ σ => ⌜Kept rf l x σ⌝⟩⦄ := by
  have hpolyline := drawPolyline_layers rf l x hcoherent
  unfold drawRectangle
  mvcgen [hpolyline]
  all_goals clear hpolyline
  all_goals simp_all

theorem drawHatch_layers (boundary pattern scale layer colour : Value) :
    ⦃fun σ => ⌜Kept rf l x σ⌝⦄ drawHatch boundary pattern scale layer colour
    ⦃post⟨fun _ σ => ⌜Kept rf l x σ⌝, fun _ σ => ⌜Kept rf l x σ⌝⟩⦄ := by
  have hpolyline := drawPolyline_layers rf l x hcoherent
  have hrequest := Op.request_layers rf l x
  have hadd := Op.addEntity_layers rf l x
  have hprops := applyProperties_layers rf l x
  have hrefresh := refresh_layers rf l x
  unfold drawHatch
  mvcgen [Op.link_answers, hpolyline, hrequest, hadd, hprops, hrefresh]
  all_goals clear hpolyline hrequest hadd hprops hrefresh
  all_goals simp_all [Kept]

end Drawing

end Link


/-- The operations that make a layer or put entities on layers, by the names a call gives
them. -/
def layerOperations : List String := "create_layer" :: drawOperations

/-- Whether a step is a direct call of an operation that makes a layer or puts entities on
layers. -/
def Step.drawsOnLayers : Step → Bool
  | .link op _ => layerOperations.contains op
  | _ => false

/-- Whether a step calls an operation of the connection directly, or changes the
application. -/
def Step.callsConnection : Step → Bool
  | .link _ _ | .refuse _ | .unplug _ => true
  | _ => false

/-- A direct call of an operation that makes a layer or puts entities on layers keeps the
layers reached, on a connection whose model space comes with its document. -/
theorem Session.callLink_layers (rf : List String) (l : Link) (x : List Request × List Value)
    (hcoherent : l.modelSpace = true → l.doc = true) (op : String) (hop : op ∈ layerOperations)
    (args : List (String × Value)) :
    ⦃fun σ => ⌜Kept rf l x σ⌝⦄ Session.callLink op args
    ⦃post⟨fun _ σ => ⌜Kept rf l x σ⌝, fun _ σ => ⌜Kept rf l x σ⌝⟩⦄ := by
  have hlayer := Link.ensureLayer_layers rf l x
  have hline := Link.drawLine_layers rf l x hcoherent
  have hcircle := Link.drawCircle_layers rf l x hcoherent
  have harc := Link.drawArc_layers rf l x hcoherent
  have hellipse := Link.drawEllipse_layers rf l x hcoherent
  have hpolyline := Link.drawPolyline_layers rf l x hcoherent
  have hrectangle := Link.drawRectangle_layers rf l x hcoherent
  have htext := Link.drawText_layers rf l x hcoherent
  have hhatch := Link.drawHatch_layers rf l x hcoherent
  have hdimension := Link.addDimension_layers rf l x hcoherent
  simp only [layerOperations, drawOperations, List.mem_cons, List.not_mem_nil, or_false] at hop
  -- one case for each operation; simp picks its branch of the call by name, so that mvcgen
  -- meets that operation alone and not the forty others
  rcases hop with rfl | rfl | rfl | rfl | rfl | rfl | rfl | rfl | rfl | rfl
  all_goals
    simp only [Session.callLink]
    mvcgen [Session.bound, hlayer, hline, hcircle, harc, hellipse, hpolyline, hrectangle, htext,
      hhatch, hdimension]
  all_goals clear hlayer hline hcircle harc hellipse hpolyline hrectangle htext hhatch hdimension
  all_goals simp_all


namespace Session

/-- One call of an operation that makes a layer or puts entities on layers, from a desk
whose model space comes with its document, grants requests that replay on the desk's table,
and leaves the refusals and the connection as they were. -/
theorem report_layers (d : Desk) (s : Step) (hs : s.drawsOnLayers = true)
    (hcoherent : d.station.service.link.modelSpace = true → d.station.service.link.doc = true) :
    replay d.host.refusing d.host.layers (report d s).1.granted =
        some (report d s).2.host.layers ∧
      (report d s).2.host.refusing = d.host.refusing ∧
      (report d s).2.station.service.link = d.station.service.link := by
  cases s with
  | link op args =>
    have hop : op ∈ layerOperations := by simpa [Step.drawsOnLayers] using hs
    -- the journal is cleared first, so the view reached holds the step's own requests
    obtain ⟨hrf, hl, rs, hrs, hreplay⟩ := withService_keeps
      (callLink_layers d.host.refusing d.station.service.link ([], d.host.layers) hcoherent op
        hop args)
      { d with host := { d.host with journal := #[] } } ⟨rfl, rfl, Reaches.refl _ _⟩
    simp only [report, step]
    simp only [Station.layerView, List.nil_append] at hrs hreplay
    rw [← hrs] at hreplay
    exact ⟨hreplay, hrf, hl⟩
  | tool name args => simp [Step.drawsOnLayers] at hs
  | resource uri => simp [Step.drawsOnLayers] at hs
  | service op args => simp [Step.drawsOnLayers] at hs
  | refuse names => simp [Step.drawsOnLayers] at hs
  | unplug dropped => simp [Step.drawsOnLayers] at hs

/-- A run of such calls grants requests that replay on the table it started from, and keeps
the refusals and the connection; by induction on the steps. -/
theorem runFrom_layers (d : Desk) (steps : List Step)
    (hsteps : ∀ s ∈ steps, s.drawsOnLayers = true)
    (hcoherent : d.station.service.link.modelSpace = true → d.station.service.link.doc = true) :
    replay d.host.refusing d.host.layers ((runFrom d steps).1.flatMap StepReport.granted) =
        some (runFrom d steps).2.host.layers ∧
      (runFrom d steps).2.host.refusing = d.host.refusing ∧
      (runFrom d steps).2.station.service.link = d.station.service.link := by
  induction steps generalizing d with
  | nil => exact ⟨rfl, rfl, rfl⟩
  | cons s rest ih =>
    obtain ⟨hfirst, hrf, hl⟩ := report_layers d s (hsteps s (by simp)) hcoherent
    obtain ⟨hrest, hrf', hl'⟩ := ih (report d s).2 (fun s' hs' => hsteps s' (by simp [hs']))
      (by rw [hl]; exact hcoherent)
    simp only [runFrom, List.flatMap_cons]
    refine ⟨?_, hrf'.trans hrf, hl'.trans hl⟩
    rw [replay_append, hfirst, Option.bind_some, ← hrf]
    exact hrest

/-- Over every run of direct calls of the drawing operations and of making a layer, with any
layer arguments and under any refusals of the application, from a connection whose model
space comes with its document: a layer is added only when every name of the table is a
text not the same as it once lowered; an entity is put on a layer only when the table has
one the same as it, or when making the layer could not add it, because its name is no text,
the table holds a name that is no text, or the application refuses to add layers; and a
table of distinct names stays so, with no name added twice.  The condition on the
connection holds of every desk a session of direct calls of the connection reaches
(`reached_coherent`). -/
theorem layers_follow_table (d : Desk) (steps : List Step)
    (hsteps : ∀ s ∈ steps, s.drawsOnLayers = true)
    (hcoherent : d.station.service.link.modelSpace = true → d.station.service.link.doc = true) :
    let granted := (runFrom d steps).1.flatMap StepReport.granted
    let tableAt := fun pre : List Request => d.host.layers ++ pre.filterMap Request.addedLayer
    (∀ pre n post, granted = pre ++ .addLayer n :: post →
        ∀ l ∈ tableAt pre, l.isText = true ∧ same l n = false) ∧
      (∀ pre e n post, granted = pre ++ .set (.entity e) .layer n :: post →
        assignable d.host.refusing (tableAt pre) n = true) ∧
      (Distinct d.host.layers → Distinct (tableAt granted)) := by
  intro granted tableAt
  have hrun : replay d.host.refusing d.host.layers granted = some (runFrom d steps).2.host.layers :=
    (runFrom_layers d steps hsteps hcoherent).1
  refine ⟨?_, ?_, ?_⟩
  · intro pre n post hsplit l hl
    rw [hsplit] at hrun
    have hstep := replay_step_of_eq_append hrun
    simp only [Layers.step] at hstep
    split at hstep
    · rename_i hfresh
      have hfresh_l := List.all_eq_true.mp hfresh l hl
      simpa using hfresh_l
    · simp at hstep
  · intro pre e n post hsplit
    rw [hsplit] at hrun
    have hstep := replay_step_of_eq_append hrun
    simp only [Layers.step] at hstep
    split at hstep
    · assumption
    · simp at hstep
  · intro hT
    show Distinct (d.host.layers ++ granted.filterMap Request.addedLayer)
    rw [← replay_table hrun]
    exact replay_distinct hT hrun


/-- On a connected desk whose table has the layers `0` and `Walls`: making the layer `doors`
and then drawing a line on the layer `walls`, which the table has under another case. -/
theorem layers_follow_table_line :
    let d : Desk := ⟨{ layers := [.str "0", .str "Walls"] }, ⟨"/work", [], .empty, .empty⟩,
      some { Service.ofSettings Settings.shipped with
        link := ⟨.section Settings.shipped.cad, true, true, true, true⟩ }⟩
    let steps := [Step.link "create_layer" [("name", .str "doors")],
      Step.link "draw_line"
        [("start", .list [.int 0, .int 0]), ("end", .list [.int 1, .int 1]), ("layer", .str "walls")]]
    (∀ s ∈ steps, s.drawsOnLayers = true) ∧
      (d.station.service.link.modelSpace = true → d.station.service.link.doc = true) ∧
      let granted := (runFrom d steps).1.flatMap StepReport.granted
      let tableAt := fun pre : List Request => d.host.layers ++ pre.filterMap Request.addedLayer
      (∀ pre n post, granted = pre ++ .addLayer n :: post →
          ∀ l ∈ tableAt pre, l.isText = true ∧ same l n = false) ∧
        (∀ pre e n post, granted = pre ++ .set (.entity e) .layer n :: post →
          assignable d.host.refusing (tableAt pre) n = true) ∧
        (Distinct d.host.layers → Distinct (tableAt granted)) :=
  ⟨by decide, by decide, layers_follow_table _ _ (by decide) (by decide)⟩

/-- A line on the layer walls, on a connected station whose application refuses to add
layers: the layer is not added, the table keeps no layer of that name, and the line is put
on it all the same. -/
theorem layer_given_after_refused_addition :
    let σ : Station := ⟨{ refusing := ["AddLayer"] }, ⟨"/work", [], .empty, .empty⟩,
      { Service.ofSettings Settings.shipped with
        link := ⟨.section Settings.shipped.cad, true, true, true, true⟩ }⟩
    let after := ((Link.drawLine (.list [.int 0, .int 0]) (.list [.int 1, .int 1]) (.str "walls")
      .null .null).run.run σ).2
    after.host.journal.toList.any (fun r => r matches .set (.entity 1) .layer (.str "walls")) ∧
      after.host.layers.all (fun n => !same n (.str "walls")) := by
  decide +kernel

/-! ### The model space comes with its document

The theorem on layers asks of the desk a run starts from that its connection hold the model
space only with its document.  Every connection a run of direct calls reaches does:
connecting takes the document and the model space together or keeps both as they were,
closing and setting the connection up anew let go of both, and every other operation
leaves the connection as it is. -/

/-- A direct call of any operation of the connection keeps the model space with its
document. -/
theorem callLink_coherent (σ₀ : Station) (hσ₀ : σ₀.service.link.Coherent) (op : String)
    (args : List (String × Value)) :
    ⦃fun σ => ⌜σ = σ₀⌝⦄ callLink op args
    ⦃post⟨fun _ σ => ⌜σ.service.link.Coherent⌝, fun _ σ => ⌜σ.service.link.Coherent⌝⟩⦄ := by
  by_cases hop : op ∈ layerOperations
  · -- making a layer and drawing keep the connection itself
    have hkept := callLink_layers σ₀.host.refusing σ₀.service.link σ₀.layerView hσ₀ op hop args
    mvcgen [hkept]
    all_goals simp_all [Kept, Reaches.refl]
  -- connecting, closing and setting up anew change what the connection holds
  have hconnect := Link.connect_coherent σ₀ hσ₀
  have hclose := Link.close_held σ₀
  have hreset := Link.reset_held σ₀
  -- the others keep the connection as it is
  have halive := Link.alive_answers σ₀
  have hinit := Link.initLibrary_held σ₀
  have hrelease := Link.releaseLibrary_held σ₀
  have hsave := Link.save_held σ₀
  have hrefresh := Link.refresh_layers σ₀.host.refusing σ₀.service.link σ₀.layerView
  have hvalue := Link.applyToValue_layers σ₀.host.refusing σ₀.service.link σ₀.layerView
  -- inlining the local helpers of the call, so that mvcgen meets the operations themselves
  dsimp only [callLink, bound]
  split
  -- the operations on layers are set apart above
  all_goals try exact absurd (by decide) hop
  all_goals mvcgen -trivial [hconnect, hclose, hreset, halive, hinit, hrelease, hsave, hrefresh,
    hvalue]
  all_goals clear hconnect hclose hreset halive hinit hrelease hsave hrefresh hvalue
  all_goals try simp_all +zetaDelta [Kept, Reaches.refl, Link.Coherent, Link.held]
  -- left: the operations every object has, which change nothing
  rename_i hm
  refine (objectMethod_spec hm (fun σ => σ.service.link.Coherent)).entails_wp_of_post ?_ _ hσ₀
  simp only [Link.Coherent]
  exact ⟨fun _ _ hkept => hkept.1, fun _ _ hkept => hkept, trivial⟩

/-- One direct call of the connection, or change to the application, keeps the model space
with its document. -/
theorem report_coherent (d : Desk) (s : Step) (hs : s.callsConnection = true)
    (hd : d.station.service.link.Coherent) : (report d s).2.station.service.link.Coherent := by
  cases s with
  | link op args =>
    -- the journal is cleared first, which the connection does not see
    simp only [report, step]
    exact withService_keeps
      (callLink_coherent { d with host := { d.host with journal := #[] } }.station hd op args) _ rfl
  | refuse names => exact hd
  | unplug dropped => exact hd
  | tool name args => simp [Step.callsConnection] at hs
  | resource uri => simp [Step.callsConnection] at hs
  | service op args => simp [Step.callsConnection] at hs

/-- A run of such steps keeps the model space with its document; by induction on the
steps. -/
theorem runFrom_coherent (d : Desk) (steps : List Step)
    (hsteps : ∀ s ∈ steps, s.callsConnection = true) (hd : d.station.service.link.Coherent) :
    (runFrom d steps).2.station.service.link.Coherent := by
  induction steps generalizing d with
  | nil => exact hd
  | cons s rest ih =>
    have hfirst := report_coherent d s (hsteps s (by simp)) hd
    exact ih (report d s).2 (fun s' hs' => hsteps s' (by simp [hs'])) hfirst

/-- A session starts with a connection that holds nothing. -/
theorem start_coherent (host : Host) (disk : Disk) (settings : Option Settings) (lazy : Bool) :
    (start host disk settings lazy).station.service.link.Coherent := by
  cases lazy <;> simp [start, Desk.station, Service.ofSettings, Link.Coherent]

/-- Every desk a session reaches by direct calls of the connection's operations, under any
changes to the application, holds the model space only with its document: such a desk
meets what the run of layer operations after it asks of the desk it starts from. -/
theorem reached_coherent (host : Host) (disk : Disk) (settings : Option Settings) (lazy : Bool)
    (steps : List Step) (hsteps : ∀ s ∈ steps, s.callsConnection = true) :
    (runFrom (start host disk settings lazy) steps).2.station.service.link.modelSpace = true →
      (runFrom (start host disk settings lazy) steps).2.station.service.link.doc = true :=
  runFrom_coherent _ steps hsteps (start_coherent host disk settings lazy)

end Session

end Drafting
