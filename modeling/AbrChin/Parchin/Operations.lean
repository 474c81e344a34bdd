import AbrChin.Parchin.Quota

/-!
# The business clock of Parchin

`lib/parchin/operations.ts`: the working week in Tehran, which is three and a half hours ahead of
UTC, and the times that are due for a first response.  It is worked from Saturday to Wednesday from
9 to 18, and on Thursday until 14.

The loop that spends the minutes is run with fuel, and has no result when this runs out.
-/

namespace AbrChin.Parchin

open Js Pricing

/-- `TEHRAN_OFFSET_MS` -/
def tehranOffsetMs : ℤ := 210 * 60 * 1000

/-- `DAY_MS` -/
def dayMs : ℤ := 24 * 60 * 60 * 1000

structure LocalParts where
  year : ℤ
  month : ℤ
  date : ℤ
  day : ℤ
  hour : ℤ
  minute : ℤ
  second : ℤ
  millisecond : ℤ

/-- The parts of a date in Tehran; all are `NaN` for an invalid date. -/
def toTehranParts (value : Option ℤ) : Option LocalParts :=
  (newDate (value.map (· + tehranOffsetMs))).map fun shifted => {
    year := getUTCFullYear shifted
    month := getUTCMonth shifted
    date := getUTCDate shifted
    day := getUTCDay shifted
    hour := getUTCHours shifted
    minute := getUTCMinutes shifted
    second := getUTCSeconds shifted
    millisecond := getUTCMilliseconds shifted }

def fromTehranParts (parts : LocalParts) : Option ℤ :=
  newDate ((dateUTCOf parts.year parts.month parts.date parts.hour parts.minute parts.second
    parts.millisecond).map (· - tehranOffsetMs))

/-- The hours from `start` to `stop` (`end`). -/
structure WorkWindow where
  start : ℤ
  stop : ℤ

def workWindow (day : Option ℤ) : Option WorkWindow :=
  if day = some 5 then none
  else if day = some 4 then some ⟨9, 14⟩
  else some ⟨9, 18⟩

def atLocalHour (parts : Option LocalParts) (hour : ℤ) : Option ℤ :=
  parts.bind fun parts =>
    fromTehranParts { parts with hour, minute := 0, second := 0, millisecond := 0 }

/-- The attempts that are left of `nextWorkingOpen`. -/
def nextWorkingOpenFrom : ℕ → Option ℤ → Except String (Option ℤ)
  | 0, _ => .error "parchin_business_calendar_unresolvable"
  | attempts + 1, cursor =>
      let parts := toTehranParts cursor
      let found := (workWindow (parts.map (·.day))).bind fun window =>
        let opens := atLocalHour parts window.start
        let close := atLocalHour parts window.stop
        if lessThan cursor opens then some opens
        else if lessThan cursor close then some cursor
        else none
      match found with
      | some found => .ok found
      | none =>
          let nextLocalDay := newDate (parts.bind fun parts =>
            (dateUTCOf parts.year parts.month parts.date 0 0 0 0).map
              (· + dayMs - tehranOffsetMs))
          nextWorkingOpenFrom attempts (atLocalHour (toTehranParts nextLocalDay) 9)

def nextWorkingOpen (value : Option ℤ) : Except String (Option ℤ) := nextWorkingOpenFrom 10 value

/-- The loop of `addParchinBusinessMinutes`. -/
def spendMinutes : ℕ → Option ℤ → Option ℤ → Option (Except String (Option ℤ))
  | 0, _, _ => none
  | fuel + 1, cursor, remaining =>
      if !lessThan (some 0) remaining then some (.ok cursor)
      else
        let parts := toTehranParts cursor
        match workWindow (parts.map (·.day)) with
        | none =>
            match nextWorkingOpen (newDate (cursor.map (· + dayMs))) with
            | .error error => some (.error error)
            | .ok cursor => spendMinutes fuel cursor remaining
        | some window =>
            let close := atLocalHour parts window.stop
            let available := close.bind fun close => cursor.map fun cursor =>
              max 0 ((close - cursor) / 60000)
            -- `remaining <= available`, where both may be `NaN`
            match remaining, available, cursor with
            | some remaining, some available, some cursor =>
                if remaining ≤ available then
                  some (.ok (newDate (some (cursor + remaining * 60000))))
                else
                  match nextWorkingOpen (newDate (close.map (· + 60000))) with
                  | .error error => some (.error error)
                  | .ok cursor => spendMinutes fuel cursor (some (remaining - available))
            | _, _, _ =>
                match nextWorkingOpen (newDate (close.map (· + 60000))) with
                | .error error => some (.error error)
                | .ok cursor => spendMinutes fuel cursor none

/-- `addParchinBusinessMinutes(createdAt, minutes)` for a whole number of minutes. -/
def addParchinBusinessMinutes (fuel : ℕ) (createdAt : Option ℤ) (minutes : ℤ) :
    Option (Except String (Option ℤ)) :=
  match nextWorkingOpen createdAt with
  | .error error => some (.error error)
  | .ok cursor => spendMinutes fuel cursor (some (max 0 minutes))

end AbrChin.Parchin
