import Outscan.Basic

/-! The headers of a request as they came, which the routes read themselves: a header that comes
twice is not joined but refused. -/
namespace Outscan

/-- The loop of `singleRawHeader` over `rawHeaders`, where names and values alternate. -/
def scanRawHeaders (name : String) (value : Option String) :
    List String → Except Unit (Option String)
  | field :: text :: rest =>
    if field.toLower ≠ name then scanRawHeaders name value rest
    else if value.isSome then .error ()
    else scanRawHeaders name (some text) rest
  | [field] => if field.toLower ≠ name then .ok value else .error ()
  | [] => .ok value

def singleRawHeader (rawHeaders : List String) (name : String) : Except Unit (Option String) :=
  scanRawHeaders name none rawHeaders

def rawHeadersOf (headers : List (String × String)) : List String :=
  headers.flatMap fun header => [header.1, header.2]

def headerValues (headers : List (String × String)) (name : String) : List String :=
  (headers.filter fun header => header.1.toLower = name).map Prod.snd

theorem scanRawHeaders_eq (name : String) (value : Option String)
    (headers : List (String × String)) :
    scanRawHeaders name value (rawHeadersOf headers) =
      match value.toList ++ headerValues headers name with
      | [] => .ok none
      | [text] => .ok (some text)
      | _ => .error () := by
  induction headers generalizing value with
  | nil => cases value <;> rfl
  | cons header rest ih =>
    have hcons : rawHeadersOf (header :: rest) = header.1 :: header.2 :: rawHeadersOf rest := rfl
    rw [hcons, scanRawHeaders, headerValues, List.filter_cons]
    by_cases hname : header.1.toLower = name
    · rw [if_neg (not_not.mpr hname), if_pos (decide_eq_true hname), List.map_cons]
      cases value with
      | none =>
        rw [if_neg (by simp), ih]
        rfl
      | some text => rfl
    · rw [if_pos hname, if_neg (by simpa using hname), ih]
      rfl

theorem singleRawHeader_eq (headers : List (String × String)) (name : String) :
    singleRawHeader (rawHeadersOf headers) name =
      match headerValues headers name with
      | [] => .ok none
      | [text] => .ok (some text)
      | _ => .error () :=
  scanRawHeaders_eq name none headers

theorem singleRawHeader_eq_some {headers : List (String × String)} {name text : String} :
    singleRawHeader (rawHeadersOf headers) name = .ok (some text) ↔
      headerValues headers name = [text] := by
  rw [singleRawHeader_eq]
  split
  · rename_i hnone
    simp [hnone]
  · rename_i found hfound
    simp [hfound]
  · rename_i hmany
    constructor
    · intro h
      cases h
    · intro h
      exact absurd h (hmany text)

end Outscan
