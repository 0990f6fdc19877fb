import Hotplug.Platform
/-!
# Platforms side by side

Two platforms as one, which offers the backends of both. Waiting is left to the first.

## Main definitions

* `Hotplug.Beside` and its platform.
-/

namespace Hotplug

/-- The states of two platforms. -/
structure Beside (σ τ : Type) where
  first : σ
  second : τ
  deriving DecidableEq, Repr

namespace Beside

variable {σ τ : Type}

/-- Runs an action of the first platform. -/
def onFirst (action : Action σ α) : Action (Beside σ τ) α :=
  action.on Beside.first fun first both => { both with first }

/-- Runs an action of the second platform. -/
def onSecond (action : Action τ α) : Action (Beside σ τ) α :=
  action.on Beside.second fun second both => { both with second }

/-- Changes the state of the first platform. -/
def mapFirst (f : σ → σ) (both : Beside σ τ) : Beside σ τ :=
  { both with first := f both.first }

/-- Changes the state of the second platform. -/
def mapSecond (f : τ → τ) (both : Beside σ τ) : Beside σ τ :=
  { both with second := f both.second }

instance [Platform σ] [Platform τ] : Platform (Beside σ τ) where
  Origin := Platform.Origin σ ⊕ Platform.Origin τ
  Source := Platform.Source σ ⊕ Platform.Source τ
  Channel := Platform.Channel σ ⊕ Platform.Channel τ
  name := Sum.elim Platform.name Platform.name
  enumerate
    | .inl origin, filter => onFirst (Platform.enumerate origin filter)
    | .inr origin, filter => onSecond (Platform.enumerate origin filter)
  subscribe
    | .inl origin, filter => Sum.inl <$> onFirst (Platform.subscribe origin filter)
    | .inr origin, filter => Sum.inr <$> onSecond (Platform.subscribe origin filter)
  unsubscribe
    | .inl source => mapFirst (Platform.unsubscribe source)
    | .inr source => mapSecond (Platform.unsubscribe source)
  drain
    | .inl source => onFirst (Platform.drain source)
    | .inr source => onSecond (Platform.drain source)
  sourceTarget := Sum.elim Platform.sourceTarget Platform.sourceTarget
  openChannel
    | .inl origin, info => Sum.inl <$> onFirst (Platform.openChannel origin info)
    | .inr origin, info => Sum.inr <$> onSecond (Platform.openChannel origin info)
  closeChannel
    | .inl channel => mapFirst (Platform.closeChannel channel)
    | .inr channel => mapSecond (Platform.closeChannel channel)
  channelTarget := Sum.elim Platform.channelTarget Platform.channelTarget
  read
    | .inl channel, room, limit => onFirst (Platform.read channel room limit)
    | .inr channel, room, limit => onSecond (Platform.read channel room limit)
  write
    | .inl channel, data => onFirst (Platform.write channel data)
    | .inr channel, data => onSecond (Platform.write channel data)
  configure
    | .inl channel, settings => onFirst (Platform.configure channel settings)
    | .inr channel, settings => onSecond (Platform.configure channel settings)
  reportDescriptor
    | .inl channel => onFirst (Platform.reportDescriptor channel)
    | .inr channel => onSecond (Platform.reportDescriptor channel)
  sendFeature
    | .inl channel, report => onFirst (Platform.sendFeature channel report)
    | .inr channel, report => onSecond (Platform.sendFeature channel report)
  getFeature
    | .inl channel, number, buffer => onFirst (Platform.getFeature channel number buffer)
    | .inr channel, number, buffer => onSecond (Platform.getFeature channel number buffer)
  native := Platform.native.on Beside.first fun first both => { both with first }

end Beside

end Hotplug
