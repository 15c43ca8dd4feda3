import Screener.Catalog.Basic

namespace Screener.Catalog

namespace BuiltIn

def sourceOf (name default : Text)
    (h : Parameter.Domain.source.allowsDefault default = true := by decide) : Parameter :=
  ⟨name, .source, default, none, h⟩

def number (name default description : Text) : Parameter :=
  ⟨name, .number false, default, some description, rfl⟩

def select (name : Text) (options : List Text) (default description : Text)
    (h : (Parameter.Domain.select options).allowsDefault default = true := by decide) : Parameter :=
  ⟨name, .select options, default, some description, h⟩

def source : Parameter := sourceOf "SOURCE" "CLOSE"

def offset : Parameter := number "N" "0" "Offset"

def lockedOffset : Parameter := ⟨"N", .number true, "0", some "Must be 0", rfl⟩

def period (default : Text) : Parameter := number "period" default "Period"

def function (name description : Text) (parameters : List Parameter)
    (hname : isIdentifier name = true := by decide)
    (hparameters : (parameters.map Parameter.name).Nodup := by decide) : Signature :=
  ⟨name, parameters, some description, hname, hparameters⟩

end BuiltIn

open BuiltIn

def builtIn : Catalog where
  functions := [
    function "SOURCE" "Raw price series" [offset],
    function "RSI" "Relative Strength Index" [source, offset, period "14"],
    function "BBAND" "Bollinger Bands"
      [source, offset, period "20", number "factor" "2" "Standard Deviation Factor",
       select "band" ["U", "L", "M"] "M" "Band (Upper/Lower/Middle)"],
    function "EMA" "Exponential Moving Average" [source, offset, period "12"],
    function "SMA" "Simple Moving Average" [source, offset, period "20"],
    function "MAX" "Highest value over the period" [sourceOf "SOURCE" "HIGH", offset, period "14"],
    function "MIN" "Lowest value over the period" [sourceOf "SOURCE" "LOW", offset, period "14"],
    function "CCI" "Commodity Channel Index" [offset, period "20"],
    function "MFI" "Money Flow Index" [offset, period "14"],
    function "AWESOMEOSCILLATOR" "Awesome Oscillator" [offset],
    function "STOCH" "Stochastic Oscillator"
      [offset, period "14", number "signalPeriod" "3" "Signal Period"],
    function "STOCHRSI" "Stochastic RSI"
      [source, offset, number "rsiPeriod" "14" "RSI Period",
       number "stochasticPeriod" "14" "Stochastic Period", number "kPeriod" "3" "K Period",
       number "dPeriod" "3" "D Period", select "output" ["K", "D"] "K" "Output (K/D)"],
    function "MACD" "Moving Average Convergence Divergence"
      [source, offset, period "9", number "fastPeriod" "12" "Fast Period",
       number "slowPeriod" "26" "Slow Period", number "signalPeriod" "9" "Signal Period",
       select "output" ["MACD", "signal", "histogram"] "MACD" "Output"],
    function "WMA" "Weighted Moving Average" [source, offset, period "12"],
    function "ROC" "Rate of Change" [source, offset, period "12"],
    function "ATR" "Average True Range" [offset, period "14"],
    function "HMA" "Hull Moving Average" [source, offset, period "14"],
    function "TEMA" "Triple Exponential Moving Average" [source, offset, period "14"],
    function "DEMA" "Double Exponential Moving Average" [source, offset, period "14"],
    function "BBW" "Bollinger Band Width"
      [source, offset, period "20", number "factor" "2" "Factor"],
    function "SuperTrend" "SuperTrend" [offset, period "10", number "factor" "3" "Factor"],
    function "KST" "Know Sure Thing"
      [source, offset, number "A" "10" "ROC Period 1", number "B" "15" "ROC Period 2",
       number "C" "20" "ROC Period 3", number "D" "30" "ROC Period 4",
       number "E" "10" "SMA Period 1", number "F" "10" "SMA Period 2",
       number "G" "10" "SMA Period 3", number "H" "15" "SMA Period 4",
       number "period" "9" "Signal Period", select "output" ["K", "S"] "K" "Output (KST/Signal)"],
    function "PSAR" "Parabolic SAR"
      [sourceOf "SOURCE1" "HIGH", sourceOf "SOURCE2" "LOW", offset, number "step" "0.02" "Step",
       number "max" "0.2" "Max"],
    function "ADX" "Average Directional Index"
      [sourceOf "SOURCE1" "HIGH", sourceOf "SOURCE2" "LOW", sourceOf "SOURCE3" "CLOSE", offset,
       period "14", select "output" ["A", "M", "P"] "A" "Output (ADX/MinusDI/PlusDI)"],
    function "OBV" "On-Balance Volume" [lockedOffset],
    function "ForceIndex" "Force Index" [lockedOffset, period "13"],
    function "SD" "Standard Deviation"
      [source, offset, period "20", number "multiplier" "1" "Multiplier"],
    function "KeltnerChannels" "Keltner Channels"
      [offset, period "20", number "atr" "10" "ATR Period", number "multiplier" "1" "Multiplier",
       select "output" ["M", "U", "C"] "M" "Output (Middle/Upper/Center)"],
    function "IchimokuCloud" "Ichimoku Cloud"
      [sourceOf "SOURCE1" "HIGH", sourceOf "SOURCE2" "LOW", offset,
       number "conversion" "9" "Conversion Period", number "base" "26" "Base Period",
       number "span" "52" "Span Period", number "displacement" "26" "Displacement",
       select "output" ["B", "C", "SA", "SB"] "B" "Output (Base/Conversion/SpanA/SpanB)"],
    function "AROON" "Aroon"
      [sourceOf "SOURCE1" "HIGH", sourceOf "SOURCE2" "LOW", offset, period "25",
       select "output" ["U", "L"] "U" "Output (Up/Down)"],
    function "ChandlierExit" "Chandelier Exit"
      [sourceOf "SOURCE1" "HIGH", sourceOf "SOURCE2" "LOW", offset,
       number "atrPeriod" "22" "ATR Period", number "atrMultiplier" "3" "ATR Multiplier",
       select "output" ["L", "S"] "L" "Output (Long/Short)"]]

/-- A catalog to work with: the given one, or the built-in one in place of an empty one. -/
def orBuiltIn (catalog : Catalog) : Catalog := if catalog.isEmpty then builtIn else catalog

end Screener.Catalog
