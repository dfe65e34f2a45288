import WorkspaceClient.Output.Table
import WorkspaceClient.Proofs.Json.RoundTrip
import WorkspaceClient.Proofs.Json.Slots

/-
  This file shows that a JSON report of rows is read back as
  these rows, by the rules that rows of a server are read
  with. It still is when the members of each row stand in
  another order and members of other names are added.

  Key definitions include:
    * `Report.ReadsBack`

  Main declarations:
    * `Workspace.shape_fills`
    * `Workspace.decode_toJson`
    * `User.shape_fills`
    * `User.decode_toJson`
    * `Report.readsBack_of`
    * `Report.rows_readBack`
-/

namespace WorkspaceClient

------------------------------------------------------------
-- Workspaces
------------------------------------------------------------

namespace Workspace

theorem shape_isRegular :
    shape.IsRegular := by
  refine ⟨by decide, ?_⟩
  simp only [Json.Shape.Commutes, shape, List.pairwise_cons,
    List.forall_mem_cons, List.not_mem_nil, false_implies,
    implies_true, List.Pairwise.nil, and_true]
  and_intros
  all_goals exact Json.Field.commutes_of fun _ _ _ => rfl

/-
  What is read of a workspace: an unknown phase is pending,
  and everything else that is unknown is empty.
-/
theorem shape_fills
    (origin : Json.Origin)
    (name owner template phase mainUrl : Option String)
    (urls : Option (List String)) :
    shape.Fills origin shape.initial
      [ ("name", name.map .ofText),
        ("ownerName", owner.map .ofText),
        ("template", template.map .ofText),
        ("phase", phase.map .ofText),
        ("mainUrl", mainUrl.map .ofText),
        ("urls", urls.map .ofTexts) ]
      { name := name.getD ""
        ownerName := owner.getD ""
        template := template.getD ""
        phase := phase.getD "Pending"
        mainUrl := mainUrl.getD ""
        urls := urls.getD [] } := by
  refine .ofText "" rfl rfl ?_
  refine .ofText "" rfl rfl ?_
  refine .ofText "" rfl rfl ?_
  refine .ofText "Pending" rfl rfl ?_
  refine .ofText "" rfl rfl ?_
  exact .ofTexts rfl rfl .done

/- A workspace is read from its value. -/
theorem decode_toJson
    (origin : Json.Origin)
    (w : Workspace) :
    shape.decode origin w.toJson = .ok w :=
  Json.Shape.decode_present shape_isRegular rfl
    (shape_fills origin (some w.name) (some w.ownerName)
      (some w.template) (some w.phase) (some w.mainUrl)
      (some w.urls))

theorem toJson_isTextual
    (w : Workspace) :
    w.toJson.isTextual = true := by
  have hUrls := Json.ofTexts_isTextual w.urls
  simp [toJson, Json.ofMembers, Json.isTextual,
    Json.textualMembers, Json.ofText, hUrls]

end Workspace

------------------------------------------------------------
-- Users
------------------------------------------------------------

namespace User

theorem shape_isRegular :
    shape.IsRegular := by
  refine ⟨by decide, ?_⟩
  simp only [Json.Shape.Commutes, shape, List.pairwise_cons,
    List.forall_mem_cons, List.not_mem_nil, false_implies,
    implies_true, List.Pairwise.nil, and_true]
  and_intros
  all_goals exact Json.Field.commutes_of fun _ _ _ => rfl

/- What is read of a user: what is unknown is empty. -/
theorem shape_fills
    (origin : Json.Origin)
    (name displayName : Option String)
    (roles addons : Option (List String)) :
    shape.Fills origin shape.initial
      [ ("name", name.map .ofText),
        ("displayName", displayName.map .ofText),
        ("roles", roles.map .ofTexts),
        ("addons", addons.map .ofTexts) ]
      { name := name.getD ""
        displayName := displayName.getD ""
        roles := roles.getD []
        addons := addons.getD [] } := by
  refine .ofText "" rfl rfl ?_
  refine .ofText "" rfl rfl ?_
  refine .ofTexts rfl rfl ?_
  exact .ofTexts rfl rfl .done

/- A user is read from its value. -/
theorem decode_toJson
    (origin : Json.Origin)
    (u : User) :
    shape.decode origin u.toJson = .ok u :=
  Json.Shape.decode_present shape_isRegular rfl
    (shape_fills origin (some u.name) (some u.displayName)
      (some u.roles) (some u.addons))

theorem toJson_isTextual
    (u : User) :
    u.toJson.isTextual = true := by
  have hRoles := Json.ofTexts_isTextual u.roles
  have hAddons := Json.ofTexts_isTextual u.addons
  simp [toJson, Json.ofMembers, Json.isTextual,
    Json.textualMembers, Json.ofText, hRoles, hAddons]

end User

------------------------------------------------------------
-- Reports
------------------------------------------------------------

namespace Report

variable {α : Type}

/-
  A JSON report of rows is read back as these rows, and so
  is any document that differs from it in the order of the
  members of its rows and in members of other names.
-/
structure ReadsBack
    (shape : Json.Shape α)
    (report : Report)
    (rows : List α) : Prop where
  printed :
    (Json.Decoder.list shape.decode).ofBytes
        (Bytes.ofText (report.render .json)) =
      .ok rows
  extended :
    ∃ items,
      Json.parse (Bytes.ofText (report.render .json)) =
          { value := .array items, closed := true } ∧
        ∀ items' bs,
          List.Forall₂ (Json.ObjectExtends shape.names)
            items items' →
          Json.parse bs =
            { value := .array items', closed := true } →
          (Json.Decoder.list shape.decode).ofBytes bs =
            .ok rows

/- A report is one JSON document. -/
theorem parse_render
    {report : Report}
    (hTextual : report.json.isTextual = true) :
    Json.parse (Bytes.ofText (report.render .json)) =
      { value := report.json, closed := true } := by
  have hBreak : Bytes.ofText "\n" = [0x0A] := rfl
  change Json.parse
    (Bytes.ofText (report.json.pretty ++ "\n")) = _
  rw [Bytes.ofText_append, hBreak,
    Json.parse_pretty_append _ _ hTextual]
  rfl

/-
  A report reads back if the value of each row is textual
  and decodes to the row.
-/
theorem readsBack_of
    {shape : Json.Shape α}
    {report : Report}
    {rows : List α}
    {toJson : α → Json}
    (hJson : report.json = .array (rows.map toJson))
    (hTextual : ∀ a, (toJson a).isTextual = true)
    (hDecode :
      ∀ a, shape.decode .document (toJson a) = .ok a)
    (hRegular : shape.IsRegular) :
    ReadsBack shape report rows := by
  have hReport : report.json.isTextual = true := by
    rw [hJson]
    refine Json.textualItems_iff.mpr ?_
    rw [List.forall_mem_map]
    exact fun a _ => hTextual a
  have hParse := parse_render hReport
  rw [hJson] at hParse
  have hRows :
      Json.Decoder.list shape.decode .document
          (.array (rows.map toJson)) = .ok rows := by
    rw [Json.Decoder.list_eq_ok_iff,
      List.forall₂_map_left_iff, List.forall₂_same]
    exact fun a _ => hDecode a
  constructor
  · rw [Json.Decoder.ofBytes_closed hParse, hRows]
  · refine ⟨_, hParse, ?_⟩
    intro items' bs hItems hDocument
    rw [Json.Decoder.ofBytes_closed hDocument]
    exact
      Json.Shape.list_eq_ok_of_extends hRegular.commutes
        hItems hRows

/-
  The reports of all lists of workspaces and of users read
  back.
-/
theorem rows_readBack
    (ws : List Workspace)
    (us : List User) :
    ReadsBack Workspace.shape (Workspace.report ws) ws ∧
      ReadsBack User.shape (User.report us) us :=
  ⟨readsBack_of rfl Workspace.toJson_isTextual
      (Workspace.decode_toJson .document)
      Workspace.shape_isRegular,
    readsBack_of rfl User.toJson_isTextual
      (User.decode_toJson .document)
      User.shape_isRegular⟩

end Report
end WorkspaceClient
