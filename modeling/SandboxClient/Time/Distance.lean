/-
  SandboxClient/Time/Distance.lean
  ================================
  **Distances in time, in words.** How long ago something was is told roughly, in
  the largest unit of which there is at least about one.
-/
import SandboxClient.Time.Moment

namespace SandboxClient.Time

inductive Span
  | now
  | seconds (n : Nat)
  | minutes (n : Nat)
  | hours (n : Nat)
  | days (n : Nat)
  | weeks (n : Nat)
  | months (n : Nat)
  | years (n : Nat)
  deriving DecidableEq, Repr

def minutesLong (n : Nat) : Nat := n * 60

def hoursLong (n : Nat) : Nat := n * 3600

def daysLong (n : Nat) : Nat := n * 86400

/-- Seconds as a rough length of time. A length that is beyond one of a unit is at least two. -/
def Span.ofSeconds (n : Nat) : Span :=
  if n > daysLong 547 then .years (max (n / daysLong 365) 2)
  else if n > daysLong 345 then .years 1
  else if n > daysLong 45 then .months (max (n / daysLong 30) 2)
  else if n > daysLong 29 then .months 1
  else if n > daysLong 10 + hoursLong 12 then .weeks (max (n / daysLong 7) 2)
  else if n > daysLong 6 + hoursLong 12 then .weeks 1
  else if n > hoursLong 36 then .days (max (n / daysLong 1) 2)
  else if n > hoursLong 22 then .days 1
  else if n > minutesLong 90 then .hours (max (n / hoursLong 1) 2)
  else if n > minutesLong 45 then .hours 1
  else if n > 90 then .minutes (max (n / minutesLong 1) 2)
  else if n > 45 then .minutes 1
  else if n > 10 then .seconds n
  else .now

def counted (n : Nat) (one unit : String) : String :=
  if n == 1 then one ++ " " ++ unit else toString n ++ " " ++ unit ++ "s"

/-- A rough length of time in words. -/
def Span.text : Span → String
  | .now => "now"
  | .seconds n => toString n ++ " seconds"
  | .minutes n => counted n "a" "minute"
  | .hours n => counted n "an" "hour"
  | .days n => counted n "a" "day"
  | .weeks n => counted n "a" "week"
  | .months n => counted n "a" "month"
  | .years n => counted n "a" "year"

/-- Where something is that lies so many seconds ahead, or back if they are negative. -/
def distanceText (ahead : Int) : String :=
  let span := Span.ofSeconds ahead.natAbs
  if ahead.natAbs ≤ 10 then span.text
  else if ahead < 0 then span.text ++ " ago"
  else "in " ++ span.text

/-- How long ago a moment was; `fallback` stands for no moment. -/
def agoText (now : Moment) (moment : Option Moment) (fallback : String) : String :=
  match moment with
  | some m => distanceText (now.secondsTo m)
  | none => fallback

end SandboxClient.Time
