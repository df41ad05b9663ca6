import Mathlib
import Killfile.Proofs.Answers
import Killfile.Proofs.Json.Texts
import Killfile.Proofs.Utf8

/-! Entries, feeds with their categories, and users from the bodies of answers. What a body comes to is
told by the members of its object, name by name, whatever their order is and whatever else stands beside
them. -/

namespace Killfile

open Json (Field Members Keyed States StatesOr Alike GoesByNames IsText exists_record?_iff
  required?_iff_states optional?_iff_statesOr needed_heldBy spared_heldBy)

section Records

variable {ms ns : Members}

/-- The values of members stay as they are. -/
def AsTheyAre (_ : String) (_ _ : Json) : Prop := False

theorem asTheyAre {α : Type} {name : String} {value : Json → Option α} (v w : Json)
    (h : AsTheyAre name v w) : value v = value w := h.elim

def Entry.fields : List Field :=
  [.needed "id" Json.int64?, .spared "feed_id" Json.int64?, .spared "status" EntryStatus.ofJson?,
    .spared "title" Json.text?, .spared "url" Json.text?, .spared "content" Json.text?,
    .spared "author" Json.text?, .spared "tags" (Json.nullable? (Json.list? Json.text?)),
    .spared "published_at" (Json.nullable? Timestamp.ofJson?)]

/-- What members tell of an entry. -/
structure Entry.ToldBy (ms : Members) (e : Entry) : Prop where
  id : States ms "id" Json.int64? e.id
  feedId : StatesOr ms "feed_id" 0 Json.int64? e.feedId
  status : StatesOr ms "status" .unread EntryStatus.ofJson? e.status
  title : StatesOr ms "title" "" Json.text? e.title
  url : StatesOr ms "url" "" Json.text? e.url
  content : StatesOr ms "content" "" Json.text? e.content
  author : StatesOr ms "author" "" Json.text? e.author
  tags : ∃ tags, StatesOr ms "tags" none (Json.nullable? (Json.list? Json.text?)) tags ∧
    e.tags = tags.getD []
  publishedAt : StatesOr ms "published_at" none (Json.nullable? Timestamp.ofJson?) e.publishedAt

theorem Entry.ofJson?_eq_some_iff {e : Entry} :
    ofJson? (.object ms) = some e ↔ Keyed ms ∧ ToldBy ms e := by
  rw [← exists_record?_iff fieldNames]
  simp only [ofJson?, Option.bind_eq_bind, Option.bind_eq_some_iff]
  constructor
  · rintro ⟨m, hm, h⟩
    simp only [required?_iff_states hm, optional?_iff_statesOr hm] at h
    obtain ⟨id, hid, feedId, hfeedId, status, hstatus, title, htitle, url, hurl, content, hcontent,
      author, hauthor, tags, htags, publishedAt, hpublishedAt, he⟩ := h
    cases he
    exact ⟨⟨m, hm⟩, hid, hfeedId, hstatus, htitle, hurl, hcontent, hauthor, ⟨tags, htags, rfl⟩,
      hpublishedAt⟩
  · rintro ⟨⟨m, hm⟩, h⟩
    obtain ⟨tags, htags, he⟩ := h.tags
    refine ⟨m, hm, ?_⟩
    simp only [required?_iff_states hm, optional?_iff_statesOr hm]
    exact ⟨_, h.id, _, h.feedId, _, h.status, _, h.title, _, h.url, _, h.content, _, h.author, _, htags,
      _, h.publishedAt, by rw [← he]⟩

theorem Entry.goesByNames : GoesByNames fields AsTheyAre ToldBy ofJson? := by
  refine .of_told (fun ms e => ofJson?_eq_some_iff) (fun {ms ns e} halike h => ?_) fun ms => ?_
  · obtain ⟨tags, htags, he⟩ := h.tags
    exact ⟨halike.states (by decide) asTheyAre h.id, halike.statesOr (by decide) asTheyAre h.feedId,
      halike.statesOr (by decide) asTheyAre h.status, halike.statesOr (by decide) asTheyAre h.title,
      halike.statesOr (by decide) asTheyAre h.url, halike.statesOr (by decide) asTheyAre h.content,
      halike.statesOr (by decide) asTheyAre h.author,
      ⟨tags, halike.statesOr (by decide) asTheyAre htags, he⟩,
      halike.statesOr (by decide) asTheyAre h.publishedAt⟩
  · simp only [fields, List.forall_mem_cons, needed_heldBy, List.not_mem_nil, false_implies, implies_true,
      and_true]
    constructor
    · rintro ⟨e, h⟩
      obtain ⟨tags, htags, -⟩ := h.tags
      exact ⟨⟨_, h.id⟩, spared_heldBy.mpr ⟨_, h.feedId⟩, spared_heldBy.mpr ⟨_, h.status⟩,
        spared_heldBy.mpr ⟨_, h.title⟩, spared_heldBy.mpr ⟨_, h.url⟩, spared_heldBy.mpr ⟨_, h.content⟩,
        spared_heldBy.mpr ⟨_, h.author⟩, spared_heldBy.mpr ⟨_, htags⟩,
        spared_heldBy.mpr ⟨_, h.publishedAt⟩⟩
    · rintro ⟨⟨id, hid⟩, hfeedId, hstatus, htitle, hurl, hcontent, hauthor, htags, hpublishedAt⟩
      obtain ⟨feedId, hfeedId⟩ := spared_heldBy.mp hfeedId
      obtain ⟨status, hstatus⟩ := spared_heldBy.mp hstatus
      obtain ⟨title, htitle⟩ := spared_heldBy.mp htitle
      obtain ⟨url, hurl⟩ := spared_heldBy.mp hurl
      obtain ⟨content, hcontent⟩ := spared_heldBy.mp hcontent
      obtain ⟨author, hauthor⟩ := spared_heldBy.mp hauthor
      obtain ⟨tags, htags⟩ := spared_heldBy.mp htags
      obtain ⟨publishedAt, hpublishedAt⟩ := spared_heldBy.mp hpublishedAt
      exact ⟨⟨id, feedId, status, title, url, content, author, tags.getD [], publishedAt⟩, hid, hfeedId,
        hstatus, htitle, hurl, hcontent, hauthor, ⟨tags, htags, rfl⟩, hpublishedAt⟩

def Category.fields : List Field := [.needed "id" Json.int64?, .spared "title" Json.text?]

/-- What members tell of a category. -/
structure Category.ToldBy (ms : Members) (c : Category) : Prop where
  id : States ms "id" Json.int64? c.id
  title : StatesOr ms "title" "" Json.text? c.title

theorem Category.ofJson?_eq_some_iff {c : Category} :
    ofJson? (.object ms) = some c ↔ Keyed ms ∧ ToldBy ms c := by
  rw [← exists_record?_iff fieldNames]
  simp only [ofJson?, Option.bind_eq_bind, Option.bind_eq_some_iff]
  constructor
  · rintro ⟨m, hm, h⟩
    simp only [required?_iff_states hm, optional?_iff_statesOr hm] at h
    obtain ⟨id, hid, title, htitle, hc⟩ := h
    cases hc
    exact ⟨⟨m, hm⟩, hid, htitle⟩
  · rintro ⟨⟨m, hm⟩, h⟩
    refine ⟨m, hm, ?_⟩
    simp only [required?_iff_states hm, optional?_iff_statesOr hm]
    exact ⟨_, h.id, _, h.title, rfl⟩

theorem Category.goesByNames : GoesByNames fields AsTheyAre ToldBy ofJson? := by
  refine .of_told (fun ms c => ofJson?_eq_some_iff) (fun {ms ns c} halike h => ?_) fun ms => ?_
  · exact ⟨halike.states (by decide) asTheyAre h.id, halike.statesOr (by decide) asTheyAre h.title⟩
  · simp only [fields, List.forall_mem_cons, needed_heldBy, List.not_mem_nil, false_implies, implies_true,
      and_true]
    constructor
    · rintro ⟨c, h⟩
      exact ⟨⟨_, h.id⟩, spared_heldBy.mpr ⟨_, h.title⟩⟩
    · rintro ⟨⟨id, hid⟩, htitle⟩
      obtain ⟨title, htitle⟩ := spared_heldBy.mp htitle
      exact ⟨⟨id, title⟩, hid, htitle⟩

def Feed.fields : List Field :=
  [.needed "id" Json.int64?, .needed "feed_url" Json.text?, .spared "site_url" Json.text?,
    .spared "title" Json.text?, .spared "category" Category.ofJson?]

/-- What members tell of a feed. -/
structure Feed.ToldBy (ms : Members) (f : Feed) : Prop where
  id : States ms "id" Json.int64? f.id
  url : States ms "feed_url" Json.text? f.url
  siteUrl : StatesOr ms "site_url" "" Json.text? f.siteUrl
  title : StatesOr ms "title" "" Json.text? f.title
  category : StatesOr ms "category" {} Category.ofJson? f.category

/-- The category of a feed may be another object that is alike for categories. -/
def Feed.Within (name : String) (v w : Json) : Prop :=
  name = "category" ∧ ∃ ms ns, v = .object ms ∧ w = .object ns ∧
    Alike (Category.fields.map Field.name) AsTheyAre ms ns

theorem Feed.ofJson?_eq_some_iff {f : Feed} :
    ofJson? (.object ms) = some f ↔ Keyed ms ∧ ToldBy ms f := by
  rw [← exists_record?_iff fieldNames]
  simp only [ofJson?, Option.bind_eq_bind, Option.bind_eq_some_iff]
  constructor
  · rintro ⟨m, hm, h⟩
    simp only [required?_iff_states hm, optional?_iff_statesOr hm] at h
    obtain ⟨id, hid, url, hurl, siteUrl, hsiteUrl, title, htitle, category, hcategory, hf⟩ := h
    cases hf
    exact ⟨⟨m, hm⟩, hid, hurl, hsiteUrl, htitle, hcategory⟩
  · rintro ⟨⟨m, hm⟩, h⟩
    refine ⟨m, hm, ?_⟩
    simp only [required?_iff_states hm, optional?_iff_statesOr hm]
    exact ⟨_, h.id, _, h.url, _, h.siteUrl, _, h.title, _, h.category, rfl⟩

theorem Feed.goesByNames : GoesByNames fields Within ToldBy ofJson? := by
  have hother : ∀ {α : Type} {name : String} {value : Json → Option α}, name ≠ "category" →
      ∀ v w, Within name v w → value v = value w := fun hname v w h => absurd h.1 hname
  have hcategory : ∀ v w, Within "category" v w → Category.ofJson? v = Category.ofJson? w := by
    rintro v w ⟨-, ms, ns, rfl, rfl, h⟩
    exact Category.goesByNames.alike h
  refine .of_told (fun ms f => ofJson?_eq_some_iff) (fun {ms ns f} halike h => ?_) fun ms => ?_
  · exact ⟨halike.states (by decide) (hother (by decide)) h.id,
      halike.states (by decide) (hother (by decide)) h.url,
      halike.statesOr (by decide) (hother (by decide)) h.siteUrl,
      halike.statesOr (by decide) (hother (by decide)) h.title,
      halike.statesOr (by decide) hcategory h.category⟩
  · simp only [fields, List.forall_mem_cons, needed_heldBy, List.not_mem_nil, false_implies, implies_true,
      and_true]
    constructor
    · rintro ⟨f, h⟩
      exact ⟨⟨_, h.id⟩, ⟨_, h.url⟩, spared_heldBy.mpr ⟨_, h.siteUrl⟩, spared_heldBy.mpr ⟨_, h.title⟩,
        spared_heldBy.mpr ⟨_, h.category⟩⟩
    · rintro ⟨⟨id, hid⟩, ⟨url, hurl⟩, hsiteUrl, htitle, hcategory⟩
      obtain ⟨siteUrl, hsiteUrl⟩ := spared_heldBy.mp hsiteUrl
      obtain ⟨title, htitle⟩ := spared_heldBy.mp htitle
      obtain ⟨category, hcategory⟩ := spared_heldBy.mp hcategory
      exact ⟨⟨id, url, siteUrl, title, category⟩, hid, hurl, hsiteUrl, htitle, hcategory⟩

def User.fields : List Field :=
  [.needed "id" Json.int64?, .needed "username" Json.text?, .spared "is_admin" Json.bool?]

/-- What members tell of a user. -/
structure User.ToldBy (ms : Members) (u : User) : Prop where
  id : States ms "id" Json.int64? u.id
  username : States ms "username" Json.text? u.username
  isAdmin : StatesOr ms "is_admin" false Json.bool? u.isAdmin

theorem User.ofJson?_eq_some_iff {u : User} :
    ofJson? (.object ms) = some u ↔ Keyed ms ∧ ToldBy ms u := by
  rw [← exists_record?_iff fieldNames]
  simp only [ofJson?, Option.bind_eq_bind, Option.bind_eq_some_iff]
  constructor
  · rintro ⟨m, hm, h⟩
    simp only [required?_iff_states hm, optional?_iff_statesOr hm] at h
    obtain ⟨id, hid, username, husername, isAdmin, hisAdmin, hu⟩ := h
    cases hu
    exact ⟨⟨m, hm⟩, hid, husername, hisAdmin⟩
  · rintro ⟨⟨m, hm⟩, h⟩
    refine ⟨m, hm, ?_⟩
    simp only [required?_iff_states hm, optional?_iff_statesOr hm]
    exact ⟨_, h.id, _, h.username, _, h.isAdmin, rfl⟩

theorem User.goesByNames : GoesByNames fields AsTheyAre ToldBy ofJson? := by
  refine .of_told (fun ms u => ofJson?_eq_some_iff) (fun {ms ns u} halike h => ?_) fun ms => ?_
  · exact ⟨halike.states (by decide) asTheyAre h.id, halike.states (by decide) asTheyAre h.username,
      halike.statesOr (by decide) asTheyAre h.isAdmin⟩
  · simp only [fields, List.forall_mem_cons, needed_heldBy, List.not_mem_nil, false_implies, implies_true,
      and_true]
    constructor
    · rintro ⟨u, h⟩
      exact ⟨⟨_, h.id⟩, ⟨_, h.username⟩, spared_heldBy.mpr ⟨_, h.isAdmin⟩⟩
    · rintro ⟨⟨id, hid⟩, ⟨username, husername⟩, hisAdmin⟩
      obtain ⟨isAdmin, hisAdmin⟩ := spared_heldBy.mp hisAdmin
      exact ⟨⟨id, username, isAdmin⟩, hid, husername, hisAdmin⟩

end Records

section Tags

variable {before after ms ns : Members} {v : Json} {e : Entry}

/-- The tags of an entry come from the members named so, and nothing else does. -/
theorem Entry.ToldBy.exchange_tags (h : ToldBy ms e)
    (hother : ∀ name, name ≠ "tags" → Json.named ms name = Json.named ns name)
    (htags : ∃ tags, StatesOr ns "tags" none (Json.nullable? (Json.list? Json.text?)) tags ∧
      e.tags = tags.getD []) : ToldBy ns e := by
  have hstates : ∀ {α : Type} {name : String} {value : Json → Option α} {a : α}, name ≠ "tags" →
      States ms name value a → States ns name value a := by
    intro α name value a hname hms
    rwa [Json.states_iff, ← hother name hname, ← Json.states_iff]
  have hstatesOr : ∀ {α : Type} {name : String} {value : Json → Option α} {a default : α},
      name ≠ "tags" → StatesOr ms name default value a → StatesOr ns name default value a := by
    intro α name value a default hname hms
    rwa [Json.statesOr_iff, Json.states_iff, ← hother name hname, ← Json.states_iff,
      ← Json.statesOr_iff]
  exact ⟨hstates (by decide) h.id, hstatesOr (by decide) h.feedId, hstatesOr (by decide) h.status,
    hstatesOr (by decide) h.title, hstatesOr (by decide) h.url, hstatesOr (by decide) h.content,
    hstatesOr (by decide) h.author, htags, hstatesOr (by decide) h.publishedAt⟩

/-- A value that comes to no tags is like no member for them. -/
theorem Entry.toldBy_insert_tags {empty : Option (List String)}
    (habsent : ∀ w, (some "tags", w) ∉ before ++ after)
    (hv : Json.nullable? (Json.list? Json.text?) v = some empty) (hempty : empty.getD [] = []) :
    ToldBy (before ++ (some "tags", v) :: after) e ↔ ToldBy (before ++ after) e := by
  have hnone := Json.absent_iff.mp habsent
  have hother : ∀ name, name ≠ "tags" →
      Json.named (before ++ (some "tags", v) :: after) name = Json.named (before ++ after) name := by
    intro name hname
    simp [Json.named_append, Json.named_cons, hname.symm]
  have honce : Json.named (before ++ (some "tags", v) :: after) "tags" = [(some "tags", v)] := by
    rw [Json.named_append, List.append_eq_nil_iff] at hnone
    simp [Json.named_append, Json.named_cons, hnone]
  have hgiven : ∀ tags, StatesOr (before ++ (some "tags", v) :: after) "tags" none
      (Json.nullable? (Json.list? Json.text?)) tags ↔ tags = empty := by
    simp [Json.statesOr_iff, Json.states_iff, honce, hv, eq_comm]
  have hleft : ∀ tags, StatesOr (before ++ after) "tags" none
      (Json.nullable? (Json.list? Json.text?)) tags ↔ tags = none := by
    simp [Json.statesOr_iff, Json.states_iff, hnone]
  constructor
  · intro h
    obtain ⟨tags, htags, he⟩ := h.tags
    obtain rfl := (hgiven tags).mp htags
    exact h.exchange_tags hother ⟨none, (hleft none).mpr rfl, he.trans hempty⟩
  · intro h
    obtain ⟨tags, htags, he⟩ := h.tags
    obtain rfl := (hleft tags).mp htags
    exact h.exchange_tags (fun name hname => (hother name hname).symm)
      ⟨empty, (hgiven empty).mpr rfl, he.trans hempty.symm⟩

end Tags

section Null

theorem admits_null_iff : ∀ f ∈ Entry.fields ++ Feed.fields ++ Category.fields ++ User.fields,
    f.admits .null ↔ f.name = "tags" ∨ f.name = "published_at" := by
  simp [Entry.fields, Feed.fields, Category.fields, User.fields, Field.needed, Field.spared, Json.int64?,
    Json.text?, Json.bool?, Json.nullable?, EntryStatus.ofJson?, Category.ofJson?, Json.record?]

end Null

namespace Client

/-- Bodies with an object come to what the object does. -/
structure DecodesByNames {α : Type} (fields : List Field) (within : String → Json → Json → Prop)
    (told : Members → α → Prop) (ofJson? : Json → Option α) : Prop where
  values : GoesByNames fields within told ofJson?
  alike : ∀ {r r' : Http.Response} {ms ns}, IsText (Text.Utf8.decode r.body) (.object ms) →
    IsText (Text.Utf8.decode r'.body) (.object ns) → Alike (fields.map Field.name) within ms ns →
    decodeBody ofJson? r = decodeBody ofJson? r'
  decoded : ∀ {r : Http.Response} {ms x}, IsText (Text.Utf8.decode r.body) (.object ms) →
    (decodeBody ofJson? r = .ok x ↔ Keyed ms ∧ told ms x)
  refused : ∀ {r : Http.Response} {ms}, IsText (Text.Utf8.decode r.body) (.object ms) →
    (decodeBody ofJson? r = .error .json ↔ ¬ Json.Fits fields ms)

theorem decodeBody_of_isText {α : Type} {ofJson? : Json → Option α} {r : Http.Response} {j : Json}
    (h : IsText (Text.Utf8.decode r.body) j) :
    decodeBody ofJson? r = (ofJson? j).elim (.error .json) .ok := by
  rw [decodeBody, Json.ofBytes, Json.parse_eq_some_iff.mpr h, Option.bind_some]
  cases ofJson? j <;> rfl

theorem DecodesByNames.of_goesByNames {α : Type} {fields : List Field}
    {within : String → Json → Json → Prop} {told : Members → α → Prop} {ofJson? : Json → Option α}
    (h : GoesByNames fields within told ofJson?) : DecodesByNames fields within told ofJson? where
  values := h
  alike hr hr' halike := by rw [decodeBody_of_isText hr, decodeBody_of_isText hr', h.alike halike]
  decoded {r ms x} hr := by
    rw [decodeBody_of_isText hr, ← h.decoded]
    cases ofJson? (.object ms) <;> simp
  refused {r ms} hr := by
    rw [decodeBody_of_isText hr, ← h.decodes]
    cases ofJson? (.object ms) <;> simp

/-- Entries, feeds, categories and users are decoded by the names of the members of an object. The order
of the members and those of other names do not matter, also in the category of a feed. An object comes to
something if each key is a text, no field is given twice, the required ones are given and each value
given can be that of its field. A field that is not given has its usual value, and for the tags of an
entry null and the empty array come to the same. Only they and the date of an entry can be null. -/
theorem decoding_by_names :
    DecodesByNames Entry.fields AsTheyAre Entry.ToldBy Entry.ofJson? ∧
    DecodesByNames Feed.fields Feed.Within Feed.ToldBy Feed.ofJson? ∧
    DecodesByNames Category.fields AsTheyAre Category.ToldBy Category.ofJson? ∧
    DecodesByNames User.fields AsTheyAre User.ToldBy User.ofJson? ∧
    (∀ before after, (∀ v, (some "tags", v) ∉ before ++ after) →
      (∀ e, Entry.ofJson? (.object (before ++ after)) = some e → e.tags = []) ∧
      ∀ v, v = Json.null ∨ v = Json.array [] →
        Entry.ofJson? (.object (before ++ (some "tags", v) :: after)) =
          Entry.ofJson? (.object (before ++ after))) ∧
    ∀ f ∈ Entry.fields ++ Feed.fields ++ Category.fields ++ User.fields,
      f.admits .null ↔ f.name = "tags" ∨ f.name = "published_at" := by
  refine ⟨.of_goesByNames Entry.goesByNames, .of_goesByNames Feed.goesByNames,
    .of_goesByNames Category.goesByNames, .of_goesByNames User.goesByNames,
    fun before after habsent => ⟨fun e he => ?_, fun v hv => ?_⟩, admits_null_iff⟩
  · obtain ⟨tags, htags, he⟩ := (Entry.ofJson?_eq_some_iff.mp he).2.tags
    have hnone : tags = none := by
      simpa [Json.statesOr_iff, Json.states_iff, Json.absent_iff.mp habsent] using htags
    rw [he, hnone, Option.getD_none]
  · refine Option.ext fun e => ?_
    have hkeyed : Keyed (before ++ (some "tags", v) :: after) ↔ Keyed (before ++ after) := by
      simp [Keyed, or_imp, forall_and]
    have htold : Entry.ToldBy (before ++ (some "tags", v) :: after) e ↔
        Entry.ToldBy (before ++ after) e := by
      rcases hv with rfl | rfl
      · exact Entry.toldBy_insert_tags habsent rfl rfl
      · exact Entry.toldBy_insert_tags habsent rfl rfl
    rw [Entry.ofJson?_eq_some_iff, Entry.ofJson?_eq_some_iff, hkeyed, htold]

/-- An entry with its number alone. -/
def bareMembers : Members := [(some "id", .number (some 5))]

/-- The same in another order, with a member that no entry has. -/
def strewnMembers : Members :=
  [(some "x", .array [.number none, .object [(none, .number none)]]), (some "id", .number (some 5))]

def bareResponse : Http.Response where
  body := Text.Utf8.encode "\x7b\"id\":5\x7d"

def strewnResponse : Http.Response where
  body := Text.Utf8.encode "\x7b\"x\": [1.5e3, \x7b\"\\ud800\": -0\x7d], \"\\u0069d\": 5\x7d"

/-- Both bodies are the same entry. -/
theorem decoding_by_names_strewn :
    IsText (Text.Utf8.decode bareResponse.body) (.object bareMembers) ∧
    IsText (Text.Utf8.decode strewnResponse.body) (.object strewnMembers) ∧
    decodeBody Entry.ofJson? bareResponse = decodeBody Entry.ofJson? strewnResponse ∧
    decodeBody Entry.ofJson? strewnResponse = .ok { id := 5 } := by
  have hbare : IsText (Text.Utf8.decode bareResponse.body) (.object bareMembers) := by
    rw [bareResponse, Text.Utf8.decode_encode]
    exact Json.parse_eq_some_iff.mp (by cbv)
  have hstrewn : IsText (Text.Utf8.decode strewnResponse.body) (.object strewnMembers) := by
    rw [strewnResponse, Text.Utf8.decode_encode]
    exact Json.parse_eq_some_iff.mp (by cbv)
  have halike : Alike (Entry.fields.map Field.name) AsTheyAre strewnMembers bareMembers :=
    @Alike.unknown _ _ [] _ _ _ (by decide)
  obtain ⟨hentry, -⟩ := decoding_by_names
  refine ⟨hbare, hstrewn, hentry.alike hbare hstrewn halike.symm, ?_⟩
  rw [decodeBody_of_isText hstrewn]
  rfl

end Client

end Killfile
