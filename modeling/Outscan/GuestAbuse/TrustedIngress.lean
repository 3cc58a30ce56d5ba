import Outscan.GuestAbuse.NetworkAddress

/-! The address a request came from: the last hop of the forwarding chain that
is no trusted proxy. -/
namespace Outscan

def trustedIngressPolicyId : String := "outscan-trusted-ingress-v1"

def ingressRequestKeys : List String :=
  ["socket_remote_address", "x_forwarded_for", "trusted_proxy_cidrs"]

def maxForwardedHops : Nat := 8
def maxForwardedLength : Nat := 512
def maxTrustedProxyCidrs : Nat := 64

inductive IngressSource where
  | directSocket | trustedProxyChain
deriving DecidableEq, Repr

inductive TrustedIngressAddressResult where
  | ok (policyId trustedIngressAddress : String) (source : IngressSource)
  | invalidIngressContext
deriving DecidableEq, Repr

inductive IngressField where
  | scalar (value : Dynamic.Scalar)
  | list (entries : List Dynamic.Scalar)

def IngressField.asScalar : IngressField → Dynamic.Scalar
  | .scalar value => value
  | .list _ => .other

def forwardedParts (header : String) : List (List Char) :=
  (header.toList.splitOn ',').map jsTrim

def parseForwardedFor (value : Dynamic.Scalar) : Option (List ParsedNetworkAddress) :=
  match value with
  | .string header =>
    if utf16Length header.toList = 0 then none
    else if utf16Length header.toList > maxForwardedLength then none
    else if (forwardedParts header).length > maxForwardedHops then none
    else (forwardedParts header).mapM fun part =>
      parseNetworkAddress (.string (String.ofList part))
  | _ => none

def selectHop {α : Type} (trusted : α → Bool) (selected : α) : List α → α
  | [] => selected
  | candidate :: rest => if trusted selected then selectHop trusted candidate rest else selected

def resolveIngress (socket header cidrs : IngressField) : TrustedIngressAddressResult :=
  match parseNetworkAddress socket.asScalar, cidrs with
  | some peer, .list cidrValues =>
    if cidrValues.length > maxTrustedProxyCidrs then .invalidIngressContext
    else
      match cidrValues.mapM parseNetworkCidr with
      | none => .invalidIngressContext
      | some trustedCidrs =>
        let trusted := fun address => trustedCidrs.any fun cidr => networkCidrContains cidr address
        if !trusted peer then .ok trustedIngressPolicyId peer.canonicalAddress .directSocket
        else
          match parseForwardedFor header.asScalar with
          | none => .invalidIngressContext
          | some chain =>
            let selected := selectHop trusted peer chain.reverse
            if trusted selected then .invalidIngressContext
            else .ok trustedIngressPolicyId selected.canonicalAddress .trustedProxyChain
  | _, _ => .invalidIngressContext

def resolveTrustedIngressAddress (value : Dynamic.Value IngressField) :
    TrustedIngressAddressResult :=
  match value with
  | .other => .invalidIngressContext
  | .record fields =>
    if !fields.hasExactKeys ingressRequestKeys then .invalidIngressContext
    else
      let field := fields.get (.scalar .other)
      resolveIngress (field "socket_remote_address") (field "x_forwarded_for")
        (field "trusted_proxy_cidrs")

def ingressRequest (socket header cidrs : IngressField) : Dynamic.Value IngressField :=
  .record ⟨[("socket_remote_address", socket), ("x_forwarded_for", header),
    ("trusted_proxy_cidrs", cidrs)], by simp⟩

theorem resolve_ingressRequest (socket header cidrs : IngressField) :
    resolveTrustedIngressAddress (ingressRequest socket header cidrs) =
      resolveIngress socket header cidrs := rfl

/-! ### The last hop that is not trusted -/

theorem selectHop_map {α β : Type} (f : α → β) (trusted : β → Bool) (selected : α)
    (hops : List α) :
    selectHop trusted (f selected) (hops.map f) = f (selectHop (trusted ∘ f) selected hops) := by
  induction hops generalizing selected with
  | nil => rfl
  | cons hop rest ih =>
    simp only [List.map_cons, selectHop, Function.comp_apply]
    split
    · exact ih hop
    · rfl

theorem selectHop_split {α : Type} (trusted : α → Bool) (selected : α) (hops : List α) :
    ∃ before after, selected :: hops = before ++ selectHop trusted selected hops :: after ∧
      ∀ hop ∈ before, trusted hop = true := by
  induction hops generalizing selected with
  | nil => exact ⟨[], [], rfl, by simp⟩
  | cons hop rest ih =>
    rw [selectHop]
    by_cases htrusted : trusted selected = true
    · obtain ⟨before, after, hsplit, hbefore⟩ := ih hop
      rw [if_pos htrusted]
      refine ⟨selected :: before, after, ?_, ?_⟩
      · rw [hsplit, List.cons_append]
      · simpa [htrusted] using hbefore
    · rw [if_neg htrusted]
      exact ⟨[], hop :: rest, rfl, by simp⟩

theorem last_without_unique {α : Type} {p : α → Prop} {left left' right right' : List α}
    {x x' : α} (h : left ++ x :: right = left' ++ x' :: right') (hx : ¬ p x) (hx' : ¬ p x')
    (hright : ∀ y ∈ right, p y) (hright' : ∀ y ∈ right', p y) : x = x' ∧ right = right' := by
  rcases List.append_eq_append_iff.mp h with ⟨between, -, htail⟩ | ⟨between, -, htail⟩
  · cases between with
    | nil => exact List.cons.inj htail
    | cons y rest =>
      obtain ⟨-, rfl⟩ := List.cons.inj htail
      exact absurd (hright x' (by simp)) hx'
  · cases between with
    | nil =>
      obtain ⟨hx, hrest⟩ := List.cons.inj htail
      exact ⟨hx.symm, hrest.symm⟩
    | cons y rest =>
      obtain ⟨-, rfl⟩ := List.cons.inj htail
      exact absurd (hright' x (by simp)) hx

/-! ### Chains of addresses -/

def Trusted (ranges : List String) (a : Ip.Address) : Prop := ∃ range ∈ ranges, InNetwork range a

theorem trusted_iff {ranges : List String} {trustedCidrs : List ParsedNetworkCidr}
    (h : (ranges.map Dynamic.Scalar.string).mapM parseNetworkCidr = some trustedCidrs)
    (a : Ip.Address) :
    (trustedCidrs.any fun cidr => networkCidrContains cidr (ParsedNetworkAddress.ofAddress a)) =
      true ↔ Trusted ranges a := by
  unfold Trusted
  induction ranges generalizing trustedCidrs with
  | nil =>
    cases h
    simp
  | cons range rest ih =>
    simp only [List.map_cons, List.mapM_cons, Option.bind_eq_bind, Option.bind_eq_some_iff,
      Option.pure_def, Option.some.injEq] at h
    obtain ⟨cidr, hcidr, others, hothers, rfl⟩ := h
    rw [List.any_cons, Bool.or_eq_true, ih hothers, networkCidrContains_iff hcidr]
    simp

theorem strings_of_mapM {entries : List Dynamic.Scalar} {trustedCidrs : List ParsedNetworkCidr}
    (h : entries.mapM parseNetworkCidr = some trustedCidrs) :
    ∃ ranges : List String, entries = ranges.map Dynamic.Scalar.string := by
  induction entries generalizing trustedCidrs with
  | nil => exact ⟨[], rfl⟩
  | cons entry rest ih =>
    simp only [List.mapM_cons, Option.bind_eq_bind, Option.bind_eq_some_iff] at h
    obtain ⟨cidr, hcidr, others, hothers, -⟩ := h
    obtain ⟨ranges, rfl⟩ := ih hothers
    cases entry with
    | string text => exact ⟨text :: ranges, rfl⟩
    | _ => cases hcidr

theorem parts_of_mapM {parts : List (List Char)} {chain : List ParsedNetworkAddress}
    (h : parts.mapM (fun part => parseNetworkAddress (.string (String.ofList part))) = some chain) :
    ∃ hops, List.Forall₂ Reads parts hops ∧ chain = hops.map ParsedNetworkAddress.ofAddress := by
  induction parts generalizing chain with
  | nil =>
    cases h
    exact ⟨[], .nil, rfl⟩
  | cons part rest ih =>
    simp only [List.mapM_cons, Option.bind_eq_bind, Option.bind_eq_some_iff, Option.pure_def,
      Option.some.injEq] at h
    obtain ⟨parsed, hparsed, others, hothers, rfl⟩ := h
    obtain ⟨a, hreads, rfl⟩ := parseNetworkAddress_iff.mp hparsed
    obtain ⟨hops, hhops, rfl⟩ := ih hothers
    rw [String.toList_ofList] at hreads
    exact ⟨a :: hops, .cons hreads hhops, rfl⟩

theorem forall₂_reads_unique {parts : List (List Char)} {hops hops' : List Ip.Address}
    (h : List.Forall₂ Reads parts hops) (h' : List.Forall₂ Reads parts hops') : hops = hops' := by
  induction h generalizing hops' with
  | nil =>
    cases h'
    rfl
  | cons hread _ ih =>
    cases h' with
    | cons hread' hrest' => rw [hread.unique hread', ih hrest']

/-- The header names the hops of a request, and `selected` is the last address on
the way from the first hop to the peer that is not trusted. -/
structure Route (header : IngressField) (ranges : List String) (peer : Ip.Address)
    (hops left right : List Ip.Address) (selected : Ip.Address) : Prop where
  header : ∃ text, header.asScalar = .string text ∧
    List.Forall₂ Reads (forwardedParts text) hops
  split : hops ++ [peer] = left ++ selected :: right
  untrusted : ¬ Trusted ranges selected
  trusted : ∀ hop ∈ right, Trusted ranges hop

def ingressText (a : Ip.Address) : String := String.ofList (addressText a)

theorem parseForwardedFor_eq_some {header : Dynamic.Scalar} {chain : List ParsedNetworkAddress}
    (h : parseForwardedFor header = some chain) :
    ∃ text hops, header = .string text ∧ List.Forall₂ Reads (forwardedParts text) hops ∧
      chain = hops.map ParsedNetworkAddress.ofAddress := by
  cases header with
  | string text =>
    simp only [parseForwardedFor] at h
    split at h
    · cases h
    · split at h
      · cases h
      · split at h
        · cases h
        · obtain ⟨hops, hhops, hchain⟩ := parts_of_mapM h
          exact ⟨text, hops, rfl, hhops, hchain⟩
  | _ => cases h

/-- What an answer means: the peer, the trusted networks, and then one of the two
ways to find the address. -/
inductive Resolved (header : IngressField) (ranges : List String) (peer : Ip.Address) :
    TrustedIngressAddressResult → Prop
  | direct (untrusted : ¬ Trusted ranges peer) :
      Resolved header ranges peer
        (.ok trustedIngressPolicyId (ingressText peer) .directSocket)
  | chain (trusted : Trusted ranges peer) (hops left right : List Ip.Address)
      (selected : Ip.Address) (route : Route header ranges peer hops left right selected) :
      Resolved header ranges peer
        (.ok trustedIngressPolicyId (ingressText selected) .trustedProxyChain)

structure ProxyList (cidrs : IngressField) (ranges : List String) : Prop where
  texts : cidrs = .list (ranges.map .string)
  few : ranges.length ≤ maxTrustedProxyCidrs
  parsed : ∀ range ∈ ranges, (parseNetworkCidr (.string range)).isSome = true

theorem ProxyList.unique {cidrs : IngressField} {ranges ranges' : List String}
    (h : ProxyList cidrs ranges) (h' : ProxyList cidrs ranges') : ranges = ranges' := by
  have hstrings := IngressField.list.inj (h.texts.symm.trans h'.texts)
  exact List.map_injective_iff.mpr (fun _ _ heq => Dynamic.Scalar.string.inj heq) hstrings

theorem mapM_ranges {ranges : List String} :
    (∃ trustedCidrs, (ranges.map Dynamic.Scalar.string).mapM parseNetworkCidr = some trustedCidrs) ↔
      ∀ range ∈ ranges, (parseNetworkCidr (.string range)).isSome = true := by
  induction ranges with
  | nil => exact ⟨fun _ _ hmem => absurd hmem List.not_mem_nil, fun _ => ⟨[], rfl⟩⟩
  | cons range rest ih =>
    rw [List.forall_mem_cons, ← ih, Option.isSome_iff_exists]
    simp only [List.map_cons, List.mapM_cons, Option.bind_eq_bind, Option.bind_eq_some_iff,
      Option.pure_def, Option.some.injEq]
    constructor
    · rintro ⟨_, cidr, hcidr, others, hothers, -⟩
      exact ⟨⟨cidr, hcidr⟩, others, hothers⟩
    · rintro ⟨⟨cidr, hcidr⟩, others, hothers⟩
      exact ⟨cidr :: others, cidr, hcidr, others, hothers, rfl⟩

theorem resolveIngress_direct {socket cidrs : IngressField} {peerText : String}
    {ranges : List String} {peer : Ip.Address} (hsocket : socket.asScalar = .string peerText)
    (hreads : Reads peerText.toList peer) (hproxies : ProxyList cidrs ranges)
    (huntrusted : ¬ Trusted ranges peer) (header : IngressField) :
    resolveIngress socket header cidrs =
      .ok trustedIngressPolicyId (ingressText peer) .directSocket := by
  obtain ⟨trustedCidrs, hcidrs⟩ := mapM_ranges.mpr hproxies.parsed
  have hpeer : parseNetworkAddress socket.asScalar = some (.ofAddress peer) := by
    rw [hsocket]
    exact parseNetworkAddress_iff.mpr ⟨peer, hreads, rfl⟩
  have hfew : ¬ (ranges.map Dynamic.Scalar.string).length > maxTrustedProxyCidrs := by
    rw [List.length_map]
    exact Nat.not_lt.mpr hproxies.few
  have hfalse : (trustedCidrs.any fun cidr => networkCidrContains cidr (.ofAddress peer)) =
      false := by
    rw [← Bool.not_eq_true, trusted_iff hcidrs]
    exact huntrusted
  unfold resolveIngress
  rw [hpeer, hproxies.texts]
  simp only [if_neg hfew, hcidrs, hfalse, Bool.not_false, if_true]
  rfl

theorem resolveIngress_ok {socket header cidrs : IngressField} {policy address : String}
    {source : IngressSource} (h : resolveIngress socket header cidrs = .ok policy address source) :
    ∃ peerText ranges peer, socket.asScalar = .string peerText ∧ Reads peerText.toList peer ∧
      ProxyList cidrs ranges ∧ Resolved header ranges peer (.ok policy address source) := by
  have hsocket : ∃ peerText, socket.asScalar = .string peerText := by
    cases hscalar : socket.asScalar with
    | string peerText => exact ⟨peerText, rfl⟩
    | _ =>
      unfold resolveIngress at h
      rw [hscalar] at h
      cases h
  obtain ⟨peerText, hsocket⟩ := hsocket
  have hall := h
  unfold resolveIngress at h
  rw [hsocket] at h
  split at h
  · rename_i parsed entries hpeer
    obtain ⟨peer, hreads, rfl⟩ := parseNetworkAddress_iff.mp hpeer
    split at h
    · cases h
    · rename_i hfew
      split at h
      · cases h
      · rename_i trustedCidrs hcidrs
        obtain ⟨ranges, rfl⟩ := strings_of_mapM hcidrs
        have htrusted := trusted_iff hcidrs
        have hproxies : ProxyList (.list (ranges.map .string)) ranges := by
          refine ⟨rfl, ?_, mapM_ranges.mp ⟨trustedCidrs, hcidrs⟩⟩
          rw [List.length_map] at hfew
          exact Nat.not_lt.mp hfew
        refine ⟨peerText, ranges, peer, hsocket, hreads, hproxies, ?_⟩
        dsimp only at h
        by_cases hpeerTrusted : Trusted ranges peer
        · simp only [(htrusted peer).mpr hpeerTrusted, Bool.not_true, Bool.false_eq_true,
            if_false] at h
          split at h
          · cases h
          · rename_i chain hchain
            obtain ⟨text, hops, htext, hhops, rfl⟩ := parseForwardedFor_eq_some hchain
            rw [← List.map_reverse, selectHop_map] at h
            split at h
            · cases h
            · rename_i hselected
              obtain ⟨before, after, hsplit, hbefore⟩ := selectHop_split
                ((fun address => trustedCidrs.any fun cidr => networkCidrContains cidr address) ∘
                  ParsedNetworkAddress.ofAddress) peer hops.reverse
              rw [htrusted] at hselected
              cases h
              refine .chain hpeerTrusted hops after.reverse before.reverse _
                ⟨⟨text, htext, hhops⟩, ?_, hselected, fun hop hhop => ?_⟩
              · have hreversed := congrArg List.reverse hsplit
                simpa using hreversed
              · exact (htrusted hop).mp (hbefore hop (List.mem_reverse.mp hhop))
        · rw [resolveIngress_direct hsocket hreads hproxies hpeerTrusted header] at hall
          cases hall
          exact .direct hpeerTrusted
  · cases h

/-- A peer that is no trusted proxy is answered, whatever the header says. A resolved address is the
last one on the way to the socket that lies in no trusted network. Headers that agree from the
resolved address on, and are both resolved, are resolved alike. -/
theorem trustedIngress (socket cidrs : IngressField) :
    (∀ peerText ranges peer, socket.asScalar = .string peerText → Reads peerText.toList peer →
      ProxyList cidrs ranges → ¬ Trusted ranges peer → ∀ header,
        resolveTrustedIngressAddress (ingressRequest socket header cidrs) =
          .ok trustedIngressPolicyId (ingressText peer) .directSocket) ∧
    ∀ header policy address source,
      resolveTrustedIngressAddress (ingressRequest socket header cidrs) =
        .ok policy address source →
      ∃ peerText ranges peer, socket.asScalar = .string peerText ∧ Reads peerText.toList peer ∧
        ProxyList cidrs ranges ∧
        (¬ Trusted ranges peer → address = ingressText peer ∧ source = .directSocket) ∧
        (Trusted ranges peer → ∃ hops left right selected,
          Route header ranges peer hops left right selected ∧
          address = ingressText selected ∧
          ∀ header' text' hops' left', header'.asScalar = .string text' →
            List.Forall₂ Reads (forwardedParts text') hops' →
            hops' ++ [peer] = left' ++ selected :: right →
            ∀ policy' address' source',
              resolveTrustedIngressAddress (ingressRequest socket header' cidrs) =
                .ok policy' address' source' →
              policy' = policy ∧ address' = address ∧ source' = source) := by
  constructor
  · intro peerText ranges peer hsocket hreads hproxies huntrusted header
    rw [resolve_ingressRequest]
    exact resolveIngress_direct hsocket hreads hproxies huntrusted header
  intro header policy address source h
  rw [resolve_ingressRequest] at h
  obtain ⟨peerText, ranges, peer, hsocket, hreads, hproxies, hresolved⟩ := resolveIngress_ok h
  refine ⟨peerText, ranges, peer, hsocket, hreads, hproxies, fun huntrusted => ?_,
    fun htrusted => ?_⟩
  · cases hresolved with
    | direct _ => exact ⟨rfl, rfl⟩
    | chain htrusted _ _ _ _ _ => exact absurd htrusted huntrusted
  · cases hresolved with
    | direct huntrusted => exact absurd htrusted huntrusted
    | chain _ hops left right selected hroute =>
      refine ⟨hops, left, right, selected, hroute, rfl, ?_⟩
      intro header' text' hops' left' htext' hhops' hsplit' policy' address' source' h'
      rw [resolve_ingressRequest] at h'
      obtain ⟨otherText, otherRanges, other, hother, hreadsOther, hproxies', hresolved'⟩ :=
        resolveIngress_ok h'
      rw [hsocket] at hother
      cases hother
      obtain rfl := hreads.unique hreadsOther
      obtain rfl := hproxies.unique hproxies'
      cases hresolved' with
      | direct huntrusted => exact absurd htrusted huntrusted
      | chain _ hops'' left'' right'' selected'' hroute'' =>
        obtain ⟨text'', htext'', hhops''⟩ := hroute''.header
        rw [htext'] at htext''
        cases htext''
        have hsplit'' := hroute''.split
        rw [forall₂_reads_unique hhops'' hhops', hsplit'] at hsplit''
        obtain ⟨rfl, -⟩ := last_without_unique hsplit'' hroute.untrusted hroute''.untrusted
          hroute.trusted hroute''.trusted
        exact ⟨rfl, rfl, rfl⟩

/-- Behind a proxy of `10.0.0.0/8` a client is found where the proxy saw it, whatever it claims to
forward for; one that comes without a proxy is found at its own address. -/
theorem trustedIngress_sample :
    (∃ peer hops left right selected, Reads "10.0.0.1".toList peer ∧
      Route (.scalar (.string "192.0.2.1, 203.0.113.9, 10.0.0.2")) ["10.0.0.0/8"] peer hops left
        right selected ∧ "203.0.113.9" = ingressText selected) ∧
    ∃ peer, Reads "198.51.100.7".toList peer ∧ ∀ header,
      resolveTrustedIngressAddress (ingressRequest (.scalar (.string "198.51.100.7")) header
        (.list [.string "10.0.0.0/8"])) =
        .ok trustedIngressPolicyId (ingressText peer) .directSocket := by
  have hproxies : ProxyList (.list [.string "10.0.0.0/8"]) ["10.0.0.0/8"] :=
    ⟨rfl, by decide, by decide +kernel⟩
  constructor
  · have hresolved : resolveTrustedIngressAddress (ingressRequest (.scalar (.string "10.0.0.1"))
        (.scalar (.string "192.0.2.1, 203.0.113.9, 10.0.0.2")) (.list [.string "10.0.0.0/8"])) =
        .ok trustedIngressPolicyId "203.0.113.9" .trustedProxyChain := by
      decide +kernel
    obtain ⟨peerText, ranges, peer, hpeerText, hreads, hproxies', huntrusted, htrusted⟩ :=
      (trustedIngress _ _).2 _ _ _ _ hresolved
    cases hpeerText
    obtain rfl := hproxies.unique hproxies'
    have hpeer : Trusted ["10.0.0.0/8"] peer := by
      by_contra hnot
      cases (huntrusted hnot).2
    obtain ⟨hops, left, right, selected, hroute, haddress, -⟩ := htrusted hpeer
    exact ⟨peer, hops, left, right, selected, hreads, hroute, haddress⟩
  · have hresolved : resolveTrustedIngressAddress (ingressRequest
        (.scalar (.string "198.51.100.7")) (.scalar .other) (.list [.string "10.0.0.0/8"])) =
        .ok trustedIngressPolicyId "198.51.100.7" .directSocket := by
      decide +kernel
    obtain ⟨peerText, ranges, peer, hpeerText, hreads, hproxies', huntrusted, htrusted⟩ :=
      (trustedIngress _ _).2 _ _ _ _ hresolved
    cases hpeerText
    obtain rfl := hproxies.unique hproxies'
    have hpeer : ¬ Trusted ["10.0.0.0/8"] peer := by
      intro htrue
      obtain ⟨_, _, _, _, hroute, -⟩ := htrusted htrue
      obtain ⟨_, htext, -⟩ := hroute.header
      cases htext
    exact ⟨peer, hreads, (trustedIngress _ _).1 _ _ _ rfl hreads hproxies hpeer⟩

end Outscan
