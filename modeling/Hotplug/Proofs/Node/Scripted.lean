import Hotplug.Kernel.Basic
/-!
# Calls on objects whose answers are given beforehand

Each call on such an object takes the next answer of its kind and is noted. Nothing else changes but the
time, if the call is a wait.

## Main statements

* `Hotplug.Kernel.run_read_scripted`, and so on for each call.
-/

namespace Hotplug.Kernel

variable {kernel : Kernel} {fd : Nat}

theorem run_read_scripted (h : kernel.endpoint? fd = some .scripted) (length : Nat) :
    (read fd length).run kernel =
      ⟨.returned ((nextAnswer (.error .badDescriptor) kernel.script.reads).map (·.take length)),
        { kernel with
          script := { kernel.script with reads := kernel.script.reads.drop 1 }
          calls := kernel.calls ++ [.read length] }, []⟩ := by
  rw [read, Action.run_bind_returned (Action.run_get kernel)]
  simp only [h]
  rfl

theorem run_write_scripted (h : kernel.endpoint? fd = some .scripted) (data : Bytes) :
    (write fd data).run kernel =
      ⟨.returned ((nextAnswer (.error .badDescriptor) kernel.script.writes).map (min · data.length)),
        { kernel with
          script := { kernel.script with writes := kernel.script.writes.drop 1 }
          calls := kernel.calls ++ [.write data] }, []⟩ := by
  rw [write, Action.run_bind_returned (Action.run_get kernel)]
  simp only [h]
  rfl

/-- A wait for one object takes as long as the script says. -/
theorem run_poll_scripted (h : kernel.endpoint? fd = some .scripted) (wanted : Nat) (limit : Int) :
    (poll [fd] wanted limit).run kernel =
      ⟨.returned ((nextAnswer (.error .badDescriptor) kernel.script.polls).map ([·])),
        { kernel with
          script := { kernel.script with
            polls := kernel.script.polls.drop 1, pauses := kernel.script.pauses.drop 1 }
          calls := kernel.calls ++ [.poll wanted limit]
          clock := kernel.clock + kernel.script.pauses.headD 0 }, []⟩ := by
  have hscripted : [(fd : Int)].any kernel.isScripted = true := by simp [isScripted, h]
  rw [poll, Action.run_bind_returned (Action.run_get kernel)]
  simp only [hscripted]
  rfl

theorem run_control_scripted (h : kernel.endpoint? fd = some .scripted) (request : Hid.Request)
    (argument : Bytes) :
    (control fd request argument).run kernel =
      ⟨.returned ((nextAnswer (.error .badDescriptor) kernel.script.controls).map fun reply =>
          let stored := reply.stored.take request.size
          (reply.value, stored ++ argument.drop stored.length)),
        { kernel with
          script := { kernel.script with controls := kernel.script.controls.drop 1 }
          calls := kernel.calls ++ [.control request (argument.take request.size)] }, []⟩ := by
  rw [control, Action.run_bind_returned (Action.run_get kernel)]
  simp only [h]
  rfl

theorem run_getTerminal_scripted (h : kernel.endpoint? fd = some .scripted) :
    (getTerminal fd).run kernel =
      ⟨.returned (nextAnswer (.error .badDescriptor) kernel.script.terminals),
        { kernel with
          script := { kernel.script with terminals := kernel.script.terminals.drop 1 }
          calls := kernel.calls ++ [.getTerminal] }, []⟩ := by
  rw [getTerminal, Action.run_bind_returned (Action.run_get kernel)]
  simp only [h]
  rfl

theorem run_setTerminal_scripted (h : kernel.endpoint? fd = some .scripted)
    (terminal : Serial.Terminal) :
    (setTerminal fd terminal).run kernel =
      ⟨.returned (nextAnswer (.error .badDescriptor) kernel.script.settings),
        { kernel with
          script := { kernel.script with settings := kernel.script.settings.drop 1 }
          calls := kernel.calls ++ [.setTerminal 0 terminal] }, []⟩ := by
  rw [setTerminal, Action.run_bind_returned (Action.run_get kernel)]
  simp only [h]
  rfl

end Hotplug.Kernel
