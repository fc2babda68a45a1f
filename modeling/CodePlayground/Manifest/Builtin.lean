import CodePlayground.Manifest.Basic

/-!
The built-in samples: their manifest and their texts.
-/

namespace CodePlayground

namespace Manifest

def builtin : Manifest where
  entries :=
    [⟨"Basics", "Add", "test-add", "test_add.py"⟩,
      ⟨"Basics", "If-Else", "test-ifelse", "test_ifelse.py"⟩,
      ⟨"Basics", "For loop", "test-for", "test_for.py"⟩,
      ⟨"Basics", "While", "test-while", "test_while.py"⟩,
      ⟨"Basics", "While (nested)", "test-while-nested", "test_while_nested.py"⟩,
      ⟨"Algorithms", "Fibonacci", "test-fibonacci", "test_fibonacci.py"⟩,
      ⟨"Algorithms", "Is prime", "test-is-prime", "test_is_prime.py"⟩,
      ⟨"Errors", "Uncaught exception", "test-raise", "test_raise.py"⟩]
  nonempty := by simp

/-- The built-in manifest is one that the checks of a manifest let through. -/
theorem ofEntries_builtin : ofEntries builtin.entries = .ok builtin := by
  have ids : repeatedId? [] builtin.entries = none := by decide
  have groups : reopenedGroup? [] none builtin.entries = none := by decide
  have nonempty := builtin.nonempty
  simp only [ofEntries, ids, groups, nonempty, not_false_eq_true, ne_eq, ↓reduceDIte]

end Manifest

/-- The texts of the built-in samples by their paths. -/
def builtinTexts : List (String × String) :=
  [("test_add.py",
      "def add(x: int, y: int) -> int:\n" ++
      "    result = x + y\n" ++
      "    print(result)\n" ++
      "    return result\n" ++
      "\n" ++
      "\n" ++
      "ret = add(114, 514)\n" ++
      "print(ret)\n" ++
      "\n" ++
      "ret = add(1919, 810)\n" ++
      "print(ret)\n"),
    ("test_ifelse.py",
      "def classify(n: int) -> str:\n" ++
      "    if n < 0:\n" ++
      "        return \"negative\"\n" ++
      "    elif n == 0:\n" ++
      "        return \"zero\"\n" ++
      "    else:\n" ++
      "        return \"positive\"\n" ++
      "\n" ++
      "\n" ++
      "for value in (-3, 0, 42):\n" ++
      "    print(value, classify(value))\n"),
    ("test_for.py",
      "def sum_to(n: int) -> int:\n" ++
      "    total = 0\n" ++
      "    for i in range(n + 1):\n" ++
      "        total += i\n" ++
      "    return total\n" ++
      "\n" ++
      "\n" ++
      "print(sum_to(10))\n" ++
      "print(sum_to(100))\n"),
    ("test_while.py",
      "def countdown(n: int):\n" ++
      "    while n > 0:\n" ++
      "        print(n)\n" ++
      "        n -= 1\n" ++
      "    print(\"liftoff\")\n" ++
      "\n" ++
      "\n" ++
      "countdown(5)\n"),
    ("test_while_nested.py",
      "def table(size: int):\n" ++
      "    i = 1\n" ++
      "    while i <= size:\n" ++
      "        j = 1\n" ++
      "        row = []\n" ++
      "        while j <= size:\n" ++
      "            row.append(str(i * j).rjust(3))\n" ++
      "            j += 1\n" ++
      "        print(\"\".join(row))\n" ++
      "        i += 1\n" ++
      "\n" ++
      "\n" ++
      "table(5)\n"),
    ("test_fibonacci.py",
      "def fib(n: int) -> int:\n" ++
      "    if n < 2:\n" ++
      "        return n\n" ++
      "    return fib(n - 1) + fib(n - 2)\n" ++
      "\n" ++
      "\n" ++
      "for i in range(15):\n" ++
      "    print(f\"fib(\x7bi\x7d) = \x7bfib(i)\x7d\")\n"),
    ("test_is_prime.py",
      "def is_prime(n: int) -> bool:\n" ++
      "    if n < 2:\n" ++
      "        return False\n" ++
      "    i = 2\n" ++
      "    while i * i <= n:\n" ++
      "        if n % i == 0:\n" ++
      "            return False\n" ++
      "        i += 1\n" ++
      "    return True\n" ++
      "\n" ++
      "\n" ++
      "print([n for n in range(50) if is_prime(n)])\n" ++
      "print(is_prime(1_000_003))\n"),
    ("test_raise.py",
      "import sys\n" ++
      "\n" ++
      "\n" ++
      "def divide(a: int, b: int) -> float:\n" ++
      "    return a / b\n" ++
      "\n" ++
      "\n" ++
      "print(\"before the error\")\n" ++
      "sys.stdout.flush()\n" ++
      "print(divide(1, 0))\n" ++
      "print(\"never printed\")\n")]

end CodePlayground
